/-
This file defines footprints on the state that scripts share.

Others can be told apart from a script only by the variables that it checks. Everything that a
script does to the shared state is to append texts to the log, to append records of runs, and to
add to variables, and it does the same whatever the log, the records and the other variables are.
-/

import TestTree.Proofs.Overlap.Footprint
import TestTree.Script.Shared

namespace TestTree

namespace Shared

/-- An edit appends to the log and to the records, and adds to some variables. -/
structure Edits (changes : String → Prop) (edit : Shared → Shared) : Prop where
  log : ∃ texts, ∀ shared, (edit shared).log = shared.log ++ texts
  inner : ∃ records, ∀ shared, (edit shared).inner = shared.inner ++ records
  value : ∃ amount : String → Int, (∀ name, ¬ changes name → amount name = 0) ∧
    ∀ shared name, (edit shared).value name = shared.value name + amount name

theorem edits_id (changes : String → Prop) : Edits changes id where
  log := ⟨[], fun shared => (List.append_nil shared.log).symm⟩
  inner := ⟨[], fun shared => (List.append_nil shared.inner).symm⟩
  value := ⟨fun _ => 0, fun _ _ => rfl, fun _ _ => (Int.add_zero _).symm⟩

theorem Edits.comp {changes : String → Prop} {first second : Shared → Shared}
    (early : Edits changes first) (late : Edits changes second) :
    Edits changes (second ∘ first) := by
  obtain ⟨⟨texts, log⟩, ⟨records, inner⟩, amount, only, value⟩ := early
  obtain ⟨⟨more, logged⟩, ⟨others, kept⟩, last, onlyLast, added⟩ := late
  refine ⟨⟨texts ++ more, fun shared => ?_⟩, ⟨records ++ others, fun shared => ?_⟩,
    fun name => amount name + last name, fun name untouched => ?_, fun shared name => ?_⟩
  · rw [Function.comp_apply, logged, log, List.append_assoc]
  · rw [Function.comp_apply, kept, inner, List.append_assoc]
  · show amount name + last name = 0
    rw [only name untouched, onlyLast name untouched, Int.add_zero]
  · rw [Function.comp_apply, added, value, Int.add_assoc]

/-- The footprint of what looks at some variables and changes some. -/
def footprint (checks changes : String → Prop) : Footprint Shared where
  Agree one other := ∀ name, checks name → one.value name = other.value name
  Edit := Edits changes
  agree_refl _ _ _ := rfl
  edit_id := edits_id changes
  edit_comp := Edits.comp
  agree_edit := by
    rintro one other edit same ⟨_, _, amount, _, value⟩ name checked
    rw [value, value, same name checked]

/-- Nobody who does not check the variables that an edit changes sees the edit. -/
theorem agree_of_edits {checks changes others : String → Prop} {one other : Shared}
    {edit : Shared → Shared} (apart : ∀ name, checks name → ¬ others name)
    (same : (footprint checks changes).Agree one other) (edits : Edits others edit) :
    (footprint checks changes).Agree (edit one) other := by
  intro name checked
  obtain ⟨_, _, amount, only, value⟩ := edits
  rw [value, only name (apart name checked), Int.add_zero]
  exact same name checked

theorem edits_note (changes : String → Prop) (text : String) :
    Edits changes fun shared => shared.note text where
  log := ⟨[text], fun _ => rfl⟩
  inner := ⟨[], fun shared => (List.append_nil shared.inner).symm⟩
  value := ⟨fun _ => 0, fun _ _ => rfl, fun _ _ => (Int.add_zero _).symm⟩

theorem edits_keep (changes : String → Prop) (record : RunRecord) :
    Edits changes fun shared => shared.keep record where
  log := ⟨[], fun shared => (List.append_nil shared.log).symm⟩
  inner := ⟨[record], fun _ => rfl⟩
  value := ⟨fun _ => 0, fun _ _ => rfl, fun _ _ => (Int.add_zero _).symm⟩

theorem lookup_filter_ne (values : List (String × Int)) (name other : String)
    (different : other ≠ name) :
    (values.filter fun entry => entry.1 != name).lookup other = values.lookup other := by
  induction values with
  | nil => rfl
  | cons entry rest inductionHypothesis =>
    obtain ⟨key, value⟩ := entry
    by_cases removed : key = name
    · have missed : (other == key) = false := beq_false_of_ne (removed ▸ different)
      rw [List.filter_cons_of_neg (by simpa using removed), inductionHypothesis,
        List.lookup_cons, missed]
    · rw [List.filter_cons_of_pos (by simpa using removed), List.lookup_cons, List.lookup_cons,
        inductionHypothesis]

theorem value_add (shared : Shared) (name other : String) (amount : Int) :
    (shared.add name amount).value other =
      shared.value other + if other = name then amount else 0 := by
  unfold add value
  by_cases same : other = name
  · subst same
    rw [List.lookup_cons_self, if_pos rfl]
    rfl
  · have missed : (other == name) = false := beq_false_of_ne same
    rw [List.lookup_cons, missed, lookup_filter_ne shared.values name other same, if_neg same,
      Int.add_zero]

theorem edits_add {changes : String → Prop} {name : String} (changed : changes name)
    (amount : Int) : Edits changes fun shared => shared.add name amount where
  log := ⟨[], fun shared => (List.append_nil shared.log).symm⟩
  inner := ⟨[], fun shared => (List.append_nil shared.inner).symm⟩
  value := by
    refine ⟨fun other => if other = name then amount else 0, fun other untouched => ?_,
      fun shared other => value_add shared name other amount⟩
    refine if_neg ?_
    rintro rfl
    exact untouched changed

end Shared

end TestTree
