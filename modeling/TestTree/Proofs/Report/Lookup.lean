/-
This file proves what is found in a report under a path.

A path is followed from group to group, each time to the first child of the next name, and its last
segment names the first test of that name. So whatever is found has nothing of its name before it
anywhere on the way. If no two siblings share a name, there is nothing else of the name either.
Then the paths to the tests of a report are all different, following one of them finds the outcome
of its test, and no other path finds anything. Groups and tests do not get in the way of each other,
because only the last segment of a path is ever compared with the names of tests.
-/

import Mathlib.Data.List.Nodup
import TestTree.Proofs.Run.Stream

namespace TestTree

/-! ### The first of a name -/

/-- The entry stands in the list, it has the property, and no entry in front of it has it. -/
def IsFirst {Entry : Type} (named : Entry → Prop) (entries : List Entry) (entry : Entry) : Prop :=
  named entry ∧ ∃ earlier later, entries = earlier ++ entry :: later ∧
    ∀ other ∈ earlier, ¬ named other

namespace ReportNode

/-- From one report the names lead to another one, by way of child groups of which each is the first
of its name among its siblings. -/
inductive Leads : ReportNode → List String → ReportNode → Prop where
  | here (report : ReportNode) : Leads report [] report
  | child {report child target : ReportNode} {name : String} {rest : List String}
      (first : IsFirst (fun sibling => sibling.name = some name) report.children child)
      (further : Leads child rest target) : Leads report (name :: rest) target

theorem group?_eq_some_iff (report child : ReportNode) (name : String) :
    report.group? name = some child ↔
      IsFirst (fun sibling => sibling.name = some name) report.children child := by
  unfold group? IsFirst
  rw [List.find?_eq_some_iff_append]
  simp only [beq_iff_eq, Bool.not_eq_true', beq_eq_false_iff_ne, ne_eq]

theorem outcome?_eq_some_iff (report : ReportNode) (test : String) (outcome : Outcome) :
    report.outcome? test = some outcome ↔
      IsFirst (fun entry => entry.1 = test) report.outcomes (test, outcome) := by
  unfold outcome? IsFirst
  rw [List.lookup_eq_some_iff]
  simp only [bne_iff_ne, ne_comm (a := test), ne_eq, true_and]

theorem find?_cons_cons (report : ReportNode) (name next : String) (rest : List String) :
    report.find? (name :: next :: rest) =
      (report.group? name).bind fun child => child.find? (next :: rest) := rfl

/-- What is found under a path is the outcome of the first test of the last name, in the group to
which the names before it lead. -/
theorem find?_eq_some_iff_leads (report : ReportNode) (path : List String) (outcome : Outcome) :
    report.find? path = some outcome ↔
      ∃ groups test target, path = groups ++ [test] ∧ report.Leads groups target ∧
        IsFirst (fun entry => entry.1 = test) target.outcomes (test, outcome) := by
  induction path generalizing report with
  | nil =>
    constructor
    · exact fun found => nomatch found
    · rintro ⟨groups, test, target, path, _⟩
      exact absurd path.symm (List.append_ne_nil_of_right_ne_nil groups (List.cons_ne_nil test []))
  | cons name rest inductionHypothesis =>
    cases rest with
    | nil =>
      refine (outcome?_eq_some_iff report name outcome).trans ?_
      constructor
      · exact fun first => ⟨[], name, report, rfl, .here report, first⟩
      · rintro ⟨groups, test, target, path, leads, first⟩
        obtain ⟨rfl, same⟩ := List.append_eq_singleton_iff.mp path.symm |>.resolve_right
          fun other => List.cons_ne_nil test [] other.2
        obtain rfl := List.head_eq_of_cons_eq same
        cases leads
        exact first
    | cons next rest =>
      rw [find?_cons_cons, Option.bind_eq_some_iff]
      constructor
      · rintro ⟨child, found, below⟩
        obtain ⟨groups, test, target, path, leads, first⟩ := (inductionHypothesis child).mp below
        refine ⟨name :: groups, test, target, congrArg (List.cons name) path, ?_, first⟩
        exact .child ((group?_eq_some_iff report child name).mp found) leads
      · rintro ⟨groups, test, target, path, leads, first⟩
        cases leads with
        | here => cases path
        | @child _ child _ _ groups firstChild further =>
          obtain ⟨rfl, same⟩ := List.cons.inj path
          refine ⟨child, (group?_eq_some_iff report child name).mpr firstChild, ?_⟩
          exact (inductionHypothesis child).mpr ⟨groups, test, target, same, further, first⟩

/-! ### The paths of a report -/

mutual

/-- The outcomes in a group and in all groups below it, each under the path of its test: the names
of the groups on the way from the group, and then the name of the test. -/
def addressed : ReportNode → List (List String × Outcome)
  | ⟨_, outcomes, children, _⟩ =>
    outcomes.map (fun entry => ([entry.1], entry.2)) ++ addressedBelow children

/-- The outcomes in several groups and below them, under the paths that begin with the names of
these groups. -/
def addressedBelow : List ReportNode → List (List String × Outcome)
  | [] => []
  | child :: rest =>
    (child.addressed.map fun entry => (child.name.getD "" :: entry.1, entry.2)) ++
      addressedBelow rest

end

/-- No two tests of one group and no two children of one group share a name. -/
def Distinct (report : ReportNode) : Prop :=
  ∀ entry ∈ report.walk 0,
    (entry.2.outcomes.map Prod.fst).Nodup ∧ (entry.2.children.map ReportNode.name).Nodup

theorem addressedBelow_eq_flatMap (children : List ReportNode) :
    addressedBelow children = children.flatMap fun child =>
      child.addressed.map fun entry => (child.name.getD "" :: entry.1, entry.2) := by
  induction children with
  | nil => rfl
  | cons child rest inductionHypothesis =>
    rw [addressedBelow, inductionHypothesis, List.flatMap_cons]

theorem mem_addressed_iff (report : ReportNode) (path : List String) (outcome : Outcome) :
    (path, outcome) ∈ report.addressed ↔
      (∃ test, path = [test] ∧ (test, outcome) ∈ report.outcomes) ∨
        ∃ child ∈ report.children, ∃ rest, path = child.name.getD "" :: rest ∧
          (rest, outcome) ∈ child.addressed := by
  obtain ⟨name, outcomes, children, passed⟩ := report
  rw [addressed, addressedBelow_eq_flatMap, List.mem_append, List.mem_map, List.mem_flatMap]
  refine or_congr ⟨?_, ?_⟩ ⟨?_, ?_⟩
  · rintro ⟨⟨test, found⟩, member, same⟩
    obtain ⟨rfl, rfl⟩ := Prod.mk.inj same
    exact ⟨test, rfl, member⟩
  · rintro ⟨test, rfl, member⟩
    exact ⟨(test, outcome), member, rfl⟩
  · rintro ⟨child, present, member⟩
    obtain ⟨⟨rest, found⟩, below, same⟩ := List.mem_map.mp member
    obtain ⟨rfl, rfl⟩ := Prod.mk.inj same
    exact ⟨child, present, rest, rfl, below⟩
  · rintro ⟨child, present, rest, rfl, below⟩
    exact ⟨child, present, List.mem_map.mpr ⟨(rest, outcome), below, rfl⟩⟩

/-- The path of a test has at least the name of the test. -/
theorem ne_nil_of_mem_addressed {report : ReportNode} {path : List String} {outcome : Outcome}
    (member : (path, outcome) ∈ report.addressed) : path ≠ [] := by
  have shapes := (mem_addressed_iff report path outcome).mp member
  rcases shapes with ⟨test, rfl, _⟩ | ⟨_, _, rest, rfl, _⟩
  · exact List.cons_ne_nil test []
  · exact List.cons_ne_nil _ rest

mutual

/-- Paths leave out no test and add none: they are paths of the outcomes at and below the group,
and each ends in the name of its test. -/
theorem last_addressed :
    (report : ReportNode) → (report.addressed.map fun entry => (entry.1.getLastD "", entry.2)) =
      report.outcomesBelow
  | ⟨_, outcomes, children, _⟩ => by
    rw [addressed, List.map_append, List.map_map, outcomesBelow_mk, last_addressedBelow children]
    exact congrArg (· ++ children.flatMap outcomesBelow) (List.map_id outcomes)

theorem last_addressedBelow :
    (children : List ReportNode) →
      ((addressedBelow children).map fun entry => (entry.1.getLastD "", entry.2)) =
        children.flatMap outcomesBelow
  | [] => rfl
  | child :: rest => by
    rw [addressedBelow, List.map_append, List.map_map, List.flatMap_cons,
      last_addressedBelow rest, ← last_addressed child]
    refine congrArg (· ++ rest.flatMap outcomesBelow) (List.map_congr_left fun entry member => ?_)
    obtain ⟨name, further, path⟩ := List.exists_cons_of_ne_nil (ne_nil_of_mem_addressed member)
    show ((child.name.getD "" :: entry.1).getLastD "", entry.2) = _
    rw [path, List.getLastD_cons, List.getLastD_cons, List.getLastD_cons]

end

/-- What holds at every depth of a walk is no matter of depths. -/
theorem forall_walk_depth (holds : ReportNode → Prop) (first second : Nat) (report : ReportNode) :
    (∀ entry ∈ report.walk first, holds entry.2) ↔ ∀ entry ∈ report.walk second, holds entry.2 := by
  have same := flatMap_walk_depth (fun report => [report]) first second report
  rw [← List.map_eq_flatMap, ← List.map_eq_flatMap] at same
  rw [← List.forall_mem_map, same, List.forall_mem_map]

/-- Names are distinct in a tree if they are at its root and in the trees below. -/
theorem distinct_iff (report : ReportNode) :
    report.Distinct ↔
      ((report.outcomes.map Prod.fst).Nodup ∧ (report.children.map ReportNode.name).Nodup) ∧
        ∀ child ∈ report.children, child.Distinct := by
  obtain ⟨name, outcomes, children, passed⟩ := report
  unfold Distinct
  rw [walk_mk, List.forall_mem_cons, List.forall_mem_flatMap]
  refine and_congr_right fun _ => forall₂_congr fun child _ => ?_
  exact forall_walk_depth (fun node => (node.outcomes.map Prod.fst).Nodup ∧
    (node.children.map ReportNode.name).Nodup) (0 + 1) 0 child

theorem named_of_rooted {report : ReportNode} (rooted : report.outline.Rooted) :
    ∀ child ∈ report.children, child.outline.Named := by
  obtain ⟨name, outcomes, children, passed⟩ := report
  rw [outline, outlines_eq_map] at rooted
  exact fun child member => rooted.2 _ (List.mem_map_of_mem member)

/-- A named group has a name, and so does every group below it. -/
theorem exists_of_named {report : ReportNode} (named : report.outline.Named) :
    (∃ name, report.name = some name) ∧ ∀ child ∈ report.children, child.outline.Named := by
  obtain ⟨name, outcomes, children, passed⟩ := report
  rw [outline, outlines_eq_map] at named
  cases named with
  | node name _ _ below =>
    exact ⟨⟨name, rfl⟩, fun child member => below _ (List.mem_map_of_mem member)⟩

/-! ### Following the paths of a report -/

/-- If no name occurs twice, any entry of a name is the first one. -/
theorem isFirst_iff_mem {Entry Name : Type} {name : Entry → Name} {entries : List Entry}
    (distinct : (entries.map name).Nodup) (entry : Entry) (wanted : Name) :
    IsFirst (fun other => name other = wanted) entries entry ↔
      entry ∈ entries ∧ name entry = wanted := by
  constructor
  · rintro ⟨named, earlier, later, rfl, _⟩
    exact ⟨List.mem_append_right earlier List.mem_cons_self, named⟩
  · rintro ⟨member, named⟩
    obtain ⟨earlier, later, rfl⟩ := List.append_of_mem member
    refine ⟨named, earlier, later, rfl, fun other early same => ?_⟩
    rw [List.map_append, List.map_cons, List.nodup_append] at distinct
    exact distinct.2.2 _ (List.mem_map_of_mem early) _ List.mem_cons_self (same.trans named.symm)

/-- If no names are repeated and every child has one, following the path of a test finds its
outcome, and no other path finds anything. -/
theorem find?_eq_some_iff_mem {report : ReportNode} (distinct : report.Distinct)
    (named : ∀ child ∈ report.children, child.outline.Named) (path : List String)
    (outcome : Outcome) :
    report.find? path = some outcome ↔ (path, outcome) ∈ report.addressed := by
  induction path generalizing report with
  | nil =>
    constructor
    · exact fun found => nomatch found
    · exact fun member => absurd rfl (ne_nil_of_mem_addressed member)
  | cons name rest inductionHypothesis =>
    obtain ⟨⟨tests, groups⟩, below⟩ := (distinct_iff report).mp distinct
    cases rest with
    | nil =>
      -- A single segment names a test of the group itself, never a child.
      refine (outcome?_eq_some_iff report name outcome).trans ?_
      rw [isFirst_iff_mem tests, mem_addressed_iff]
      constructor
      · exact fun ⟨member, _⟩ => .inl ⟨name, rfl, member⟩
      · rintro (⟨test, same, member⟩ | ⟨child, _, rest, same, member⟩)
        · obtain rfl := List.head_eq_of_cons_eq same
          exact ⟨member, rfl⟩
        · obtain rfl := List.tail_eq_of_cons_eq same
          exact absurd rfl (ne_nil_of_mem_addressed member)
    | cons next rest =>
      rw [find?_cons_cons, Option.bind_eq_some_iff, mem_addressed_iff]
      constructor
      · rintro ⟨child, found, further⟩
        obtain ⟨present, called⟩ :=
          (isFirst_iff_mem groups child (some name)).mp ((group?_eq_some_iff _ _ _).mp found)
        refine .inr ⟨child, present, next :: rest, ?_, ?_⟩
        · rw [called, Option.getD_some]
        · exact (inductionHypothesis (below child present)
            (exists_of_named (named child present)).2).mp further
      · rintro (⟨test, same, _⟩ | ⟨child, present, other, same, member⟩)
        · cases same
        · obtain ⟨⟨own, called⟩, namedBelow⟩ := exists_of_named (named child present)
          rw [called, Option.getD_some] at same
          obtain ⟨rfl, rfl⟩ := List.cons.inj same
          refine ⟨child, ?_, ?_⟩
          · exact (group?_eq_some_iff _ _ _).mpr
              ((isFirst_iff_mem groups child (some name)).mpr ⟨present, called⟩)
          · exact (inductionHypothesis (below child present) namedBelow).mpr member

/-- Below siblings with different names no path occurs twice, if none does below each of them. -/
theorem nodup_addressedBelow {children : List ReportNode}
    (distinct : (children.map ReportNode.name).Nodup)
    (named : ∀ child ∈ children, child.outline.Named)
    (each : ∀ child ∈ children, (child.addressed.map Prod.fst).Nodup) :
    ((addressedBelow children).map Prod.fst).Nodup := by
  rw [addressedBelow_eq_flatMap, List.map_flatMap, List.nodup_flatMap]
  constructor
  · intro child present
    have prefixed := (each child present).map (List.cons_injective (a := child.name.getD ""))
    rw [List.map_map] at prefixed ⊢
    exact prefixed
  · refine (List.pairwise_map.mp distinct).imp_of_mem ?_
    intro child other present otherPresent different
    obtain ⟨⟨name, called⟩, _⟩ := exists_of_named (named child present)
    obtain ⟨⟨second, otherCalled⟩, _⟩ := exists_of_named (named other otherPresent)
    -- The first segment of a path tells the two siblings apart.
    refine List.disjoint_left.mpr fun path one two => ?_
    simp only [List.map_map] at one two
    obtain ⟨⟨rest, _⟩, _, rfl⟩ := List.mem_map.mp one
    obtain ⟨⟨otherRest, _⟩, _, same⟩ := List.mem_map.mp two
    have head := List.head_eq_of_cons_eq same
    rw [called, otherCalled] at head
    exact different ((called.trans (congrArg some head.symm)).trans otherCalled.symm)

/-- Without repeated names, different tests have different paths. -/
theorem nodup_addressed {report : ReportNode} (candid : report.Candid)
    (distinct : report.Distinct) (named : ∀ child ∈ report.children, child.outline.Named) :
    (report.addressed.map Prod.fst).Nodup := by
  induction candid with
  | of name outcomes children below inductionHypothesis =>
    obtain ⟨⟨tests, groups⟩, distinctBelow⟩ := (distinct_iff _).mp distinct
    have each : ∀ child ∈ children, (child.addressed.map Prod.fst).Nodup := fun child present =>
      inductionHypothesis child present (distinctBelow child present)
        (exists_of_named (named child present)).2
    rw [ReportNode.of, addressed, List.map_append, List.nodup_append, List.map_map]
    refine ⟨?_, nodup_addressedBelow groups named each, ?_⟩
    · have single := tests.map (List.singleton_injective)
      rwa [List.map_map] at single
    · -- The path to a test of a child goes on after the name of the child.
      rintro _ one _ two rfl
      obtain ⟨⟨test, _⟩, _, rfl⟩ := List.mem_map.mp one
      obtain ⟨⟨path, outcome⟩, member, single⟩ := List.mem_map.mp two
      rw [addressedBelow_eq_flatMap] at member
      obtain ⟨child, _, member⟩ := List.mem_flatMap.mp member
      obtain ⟨⟨rest, _⟩, further, same⟩ := List.mem_map.mp member
      obtain rfl := (Prod.mk.inj same).1
      obtain rfl := List.tail_eq_of_cons_eq single
      exact ne_nil_of_mem_addressed further rfl

end ReportNode

/-! ### Reports of runs -/

namespace Runner

/-- What is found under a path is the outcome of a test of the last name in the group that the
names before it lead to, each time by the first child of its name, and it is the first test of its
name there. If no siblings share a name in the report of a run, then the paths of its tests lead
to all of them and are all different, following such a path finds exactly the outcome of its test,
and any other path finds nothing. -/
theorem find?_inverts_paths {State Kept Error : Type} :
    (∀ (node : ReportNode) (path : List String) (outcome : Outcome),
      node.find? path = some outcome ↔
        ∃ groups test target, path = groups ++ [test] ∧ node.Leads groups target ∧
          IsFirst (fun entry => entry.1 = test) target.outcomes (test, outcome)) ∧
      ∀ (runner : Runner State Kept Error) (state : State) (report : Report Error),
        (runner.run.complete state).result = .ok report → runner.suite.root.outline.Rooted →
        report.root.Distinct →
        (report.root.addressed.map fun entry => (entry.1.getLastD "", entry.2)) =
            report.root.outcomesBelow ∧
          (report.root.addressed.map Prod.fst).Nodup ∧
          (∀ path outcome, (path, outcome) ∈ report.root.addressed →
            report.root.find? path = some outcome) ∧
          ∀ path, path ∉ report.root.addressed.map Prod.fst → report.root.find? path = none := by
  refine ⟨ReportNode.find?_eq_some_iff_leads, ?_⟩
  intro runner state report returned rooted distinct
  obtain ⟨_, outline, candid⟩ := stream_eq_events returned
  have named := ReportNode.named_of_rooted (outline ▸ rooted)
  have found := ReportNode.find?_eq_some_iff_mem distinct named
  refine ⟨ReportNode.last_addressed report.root, ReportNode.nodup_addressed candid distinct named,
    fun path outcome => (found path outcome).mpr, fun path absent => ?_⟩
  rw [Option.eq_none_iff_forall_ne_some]
  intro outcome other
  exact absent (List.mem_map_of_mem ((found path outcome).mp other))

/-- A body with a test and a group of one name, and with empty names. -/
def homonymous : List (Statement (Action Nat)) :=
  [.it "same" (.blocking (pure .success)),
    .describe "same"
      [.it "same" (.blocking (pure (.error "no"))), .it "" (.blocking (pure .success))],
    .describe "" [.it "" (.blocking (pure .success))]]

/-- The suite of the homonymous body. -/
def homonymousSuite : Suite (Action Nat) :=
  ⟨⟨none, [⟨"same", .blocking (pure .success)⟩],
    [⟨some "same", [⟨"same", .blocking (pure (.error "no"))⟩, ⟨"", .blocking (pure .success)⟩], [],
      .empty⟩,
      ⟨some "", [⟨"", .blocking (pure .success)⟩], [], .empty⟩], .empty⟩⟩

/-- A run of the homonymous suite. -/
def homonymousRunner : Runner Nat Unit Empty := ⟨homonymousSuite, .standard, .silent, ()⟩

/-- The report of the homonymous suite. -/
def homonymousReport : Report Empty :=
  ⟨⟨none, [("same", ⟨.passed, none⟩)],
    [⟨some "same", [("same", ⟨.failed ⟨.test, .error "no"⟩, none⟩), ("", ⟨.passed, none⟩)], [],
      false⟩,
      ⟨some "", [("", ⟨.passed, none⟩)], [], true⟩], false⟩, 4, 3, []⟩

theorem distinct_homonymousReport : homonymousReport.root.Distinct := by
  show ∀ entry ∈ _, _
  decide

theorem find?_inverts_paths_homonymous :
    (Statement.session homonymous).outcome = .ok homonymousSuite ∧
      homonymousReport.root.find? ["same", "same"] = some ⟨.failed ⟨.test, .error "no"⟩, none⟩ ∧
      homonymousReport.root.find? ["", ""] = some ⟨.passed, none⟩ ∧
      homonymousReport.root.find? [""] = none := by
  obtain ⟨_, _, found, missed⟩ := find?_inverts_paths.2 homonymousRunner 0 homonymousReport rfl
    (Registration.rooted_of_session (show (Statement.session homonymous).outcome = _ from rfl))
    distinct_homonymousReport
  refine ⟨rfl, found _ _ ?_, found _ _ ?_, missed _ ?_⟩
  · exact .tail _ (.head _)
  · exact .tail _ (.tail _ (.tail _ (.head _)))
  · show _ ∉ _
    decide

end Runner

end TestTree
