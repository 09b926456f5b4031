/-
This file reads a report back from its events.

The events of a report say how deep each group is and nothing else about nesting. They are read
from the last to the first. The outcomes met on the way are kept until a header claims them, and
so are the finished groups: a header at some depth claims the finished groups in front that are
one level deeper. What no header claims belongs to the root. A group in front that is not deeper
than the header ends the claim, and that is why names may be empty or repeated.
-/

import TestTree.Proofs.Report.Account

namespace TestTree

/-! ### Reading events backwards -/

/-- What is read and not claimed yet: outcomes, and finished groups with their depths. -/
structure Assembly where
  outcomes : List (String × Outcome)
  groups : List (Nat × ReportNode)

namespace Assembly

/-- Nothing is read yet. -/
def empty : Assembly := ⟨[], []⟩

/-- Whether a finished group is at a depth. -/
def isAt (depth : Nat) (entry : Nat × ReportNode) : Bool := entry.1 == depth

/-- Read one more event in front of those that are read. -/
def read (event : Event) (assembly : Assembly) : Assembly :=
  match event with
  | .testOutcome name _ outcome =>
    { assembly with outcomes := (name, outcome) :: assembly.outcomes }
  | .groupStart name depth =>
    let claimed := (assembly.groups.takeWhile (isAt (depth + 1))).map Prod.snd
    ⟨[], (depth, .of (some name) assembly.outcomes claimed) ::
      assembly.groups.dropWhile (isAt (depth + 1))⟩
  | _ => assembly

/-- The root that claims everything that is left. -/
def root (assembly : Assembly) : ReportNode :=
  .of none assembly.outcomes (assembly.groups.map Prod.snd)

/-- The finished groups in front are not deeper than a depth. -/
def Within (depth : Nat) (groups : List (Nat × ReportNode)) : Prop :=
  ∀ entry ∈ groups.head?, entry.1 ≤ depth

end Assembly

/-- The report of a root, read from events. -/
def ReportNode.decode (events : List Event) : ReportNode :=
  (events.foldr Assembly.read .empty).root

/-! ### Named groups -/

/-- The group and all groups below it have names. -/
inductive Outline.Named : Outline → Prop where
  | node (name : String) (tests : List String) (children : List Outline)
      (below : ∀ child ∈ children, child.Named) : Named ⟨some name, tests, children⟩

/-- The root is the only group without a name. -/
def Outline.Rooted (outline : Outline) : Prop :=
  outline.name = none ∧ ∀ child ∈ outline.children, child.Named

namespace ReportNode

open Assembly

theorem outlines_eq_map (reports : List ReportNode) : outlines reports = reports.map outline := by
  induction reports with
  | nil => rfl
  | cons report rest inductionHypothesis =>
    rw [outlines, inductionHypothesis, List.map_cons]

/-! ### Decoding undoes encoding -/

theorem foldr_outcomeEvents (depth : Nat) (outcomes : List (String × Outcome))
    (groups : List (Nat × ReportNode)) :
    (outcomeEvents depth outcomes).foldr Assembly.read ⟨[], groups⟩ = ⟨outcomes, groups⟩ := by
  induction outcomes with
  | nil => rfl
  | cons entry rest inductionHypothesis =>
    show Assembly.read _ ((outcomeEvents depth rest).foldr Assembly.read ⟨[], groups⟩) = _
    rw [inductionHypothesis]
    rfl

/-- A header claims the children in front of it, and no more if what follows is not deeper. -/
theorem takeWhile_isAt (depth : Nat) (children : List ReportNode)
    (groups : List (Nat × ReportNode)) (within : Within depth groups) :
    ((children.map (depth + 1, ·)) ++ groups).takeWhile (isAt (depth + 1)) =
        children.map (depth + 1, ·) ∧
      ((children.map (depth + 1, ·)) ++ groups).dropWhile (isAt (depth + 1)) = groups := by
  induction children with
  | nil =>
    cases groups with
    | nil => exact ⟨rfl, rfl⟩
    | cons entry rest =>
      have bound : entry.1 ≤ depth := within entry rfl
      have other : isAt (depth + 1) entry = false := by
        rw [isAt, beq_eq_false_iff_ne]
        omega
      simp only [List.map_nil, List.nil_append, List.takeWhile_cons, List.dropWhile_cons, other,
        Bool.false_eq_true, if_false, and_self]
  | cons child rest inductionHypothesis =>
    have same : isAt (depth + 1) (depth + 1, child) = true := beq_self_eq_true _
    simp only [List.map_cons, List.cons_append, List.takeWhile_cons, List.dropWhile_cons, same,
      if_true, inductionHypothesis, and_self]

/-- Siblings are read one after another, if each of them leaves itself in front. A sibling that
was read before is not deeper than the next one, so nothing claims it. -/
theorem foldr_siblings (depth : Nat) (reports : List ReportNode)
    (each : ∀ report ∈ reports, ∀ groups, Within depth groups →
      (report.events depth).foldr Assembly.read ⟨[], groups⟩ = ⟨[], (depth, report) :: groups⟩)
    (groups : List (Nat × ReportNode)) (within : Within depth groups) :
    (reports.flatMap (events depth)).foldr Assembly.read ⟨[], groups⟩ =
      ⟨[], reports.map (depth, ·) ++ groups⟩ := by
  induction reports with
  | nil => rfl
  | cons report rest inductionHypothesis =>
    obtain ⟨first, others⟩ := List.forall_mem_cons.mp each
    rw [List.flatMap_cons, List.foldr_append, inductionHypothesis others]
    refine first _ fun entry front => ?_
    cases rest with
    | nil => exact within entry front
    | cons other rest =>
      obtain rfl := Option.some.inj front
      exact Nat.le_refl depth

/-- Reading the events of a named group leaves that group in front of what was read before. -/
theorem foldr_events {report : ReportNode} (candid : report.Candid) (named : report.outline.Named)
    (depth : Nat) (groups : List (Nat × ReportNode)) (within : Within depth groups) :
    (report.events depth).foldr Assembly.read ⟨[], groups⟩ = ⟨[], (depth, report) :: groups⟩ := by
  induction candid generalizing depth groups with
  | of name outcomes children below inductionHypothesis =>
    rw [ReportNode.of, outline, outlines_eq_map] at named
    cases named with
    | node name _ _ namedBelow =>
      have siblings := foldr_siblings (depth + 1) children
        (fun child member => inductionHypothesis child member
          (namedBelow _ (List.mem_map_of_mem member)) (depth + 1))
        groups fun entry front => Nat.le_succ_of_le (within entry front)
      obtain ⟨claimed, left⟩ := takeWhile_isAt depth children groups within
      rw [ReportNode.of, events_mk, List.foldr_append, List.foldr_append, siblings,
        foldr_outcomeEvents]
      show Assembly.read (.groupStart name depth) _ = _
      simp only [List.foldr_nil, Assembly.read, claimed, left, List.map_map, Function.comp_def,
        List.map_id']
      rfl

/-- The report of a root is what its events are decoded to, with every flag. -/
theorem decode_events {root : ReportNode} (candid : root.Candid) (rooted : root.outline.Rooted) :
    decode (root.events 0) = root := by
  cases candid with
  | of name outcomes children below =>
    obtain ⟨unnamed, named⟩ := rooted
    rw [ReportNode.of, outline, outlines_eq_map] at unnamed named
    have unnamed : name = none := unnamed
    subst unnamed
    have siblings := foldr_siblings 1 children
      (fun child member => foldr_events (below child member)
        (named _ (List.mem_map_of_mem member)) 1) [] fun entry front => by cases front
    unfold decode
    rw [ReportNode.of, events_mk, List.foldr_append, List.foldr_append]
    show Assembly.root (List.foldr Assembly.read
      (List.foldr Assembly.read ((children.flatMap (events 1)).foldr _ ⟨[], []⟩) _) _) = _
    rw [siblings, foldr_outcomeEvents]
    simp only [Assembly.root, header, List.foldr_nil, List.append_nil, List.map_map,
      Function.comp_def, List.map_id']
    rfl

end ReportNode

end TestTree
