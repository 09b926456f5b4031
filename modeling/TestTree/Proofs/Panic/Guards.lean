/-
This file says what guards do to the routing of panics.

A process has no list of its guards, only how many there are and how many each thread holds. Here
a list of threads stands for the live guards, with one entry for each guard: the thread that
installed it. The counts of the process are those of this list, and as only a live guard can be
dropped, no count is ever lowered below zero. What an install or a drop does to the hook and to
the kept hook depends on whether another guard is live.
-/

import TestTree.Panic.Routing

namespace TestTree

namespace Routing

variable {routing : Routing} {live : List Thread}

/-! ### Installs -/

/-- The first guard puts a layer around the current hook and keeps that hook aside. -/
theorem install_first (first : routing.active = 0) (thread : Thread) :
    (routing.install thread).hook = .silencing (routing.layers + 1) routing.hook ∧
      (routing.install thread).kept = some routing.hook := by
  unfold install
  rw [if_pos first]
  exact ⟨rfl, rfl⟩

/-- A guard that is installed while another one is live touches neither hook. -/
theorem install_later (later : routing.active ≠ 0) (thread : Thread) :
    (routing.install thread).hook = routing.hook ∧
      (routing.install thread).kept = routing.kept := by
  unfold install
  rw [if_neg later]
  exact ⟨rfl, rfl⟩

/-- Only the first guard adds a layer. -/
theorem layers_install (routing : Routing) (thread : Thread) :
    (routing.install thread).layers =
      if routing.active = 0 then routing.layers + 1 else routing.layers := by
  unfold install
  split <;> rfl

theorem active_install (routing : Routing) (thread : Thread) :
    (routing.install thread).active = routing.active + 1 := by
  unfold install
  split <;> rfl

theorem held_install (routing : Routing) (thread other : Thread) :
    (routing.install thread).held other =
      if other = thread then routing.held thread + 1 else routing.held other := by
  unfold install
  split <;> rfl

/-! ### Drops -/

theorem restore_none (kept : routing.kept = none) (shared : Bool) :
    routing.restore shared = routing := by
  unfold restore
  rw [kept]

/-- The kept hook is put back and not kept any longer. -/
theorem restore_some {hook : Hook} (kept : routing.kept = some hook) (shared : Bool) :
    (routing.restore shared).hook = (if shared then .forwarding hook else hook) ∧
      (routing.restore shared).kept = none := by
  unfold restore
  rw [kept]
  exact ⟨rfl, rfl⟩

/-- Putting the kept hook back changes nothing but the hooks. -/
theorem restore_counts (routing : Routing) (shared : Bool) :
    (routing.restore shared).active = routing.active ∧
      (routing.restore shared).held = routing.held := by
  unfold restore
  cases routing.kept <;> exact ⟨rfl, rfl⟩

/-- A guard that leaves another one live, or whose thread unwinds, is only counted. -/
theorem release_early {thread : Thread} {unwinding : Bool}
    (early : 1 < routing.active ∨ unwinding = true) (shared : Bool) :
    routing.release thread unwinding shared = routing.discount thread := by
  unfold release
  refine if_pos ?_
  rw [Bool.or_eq_true, decide_eq_true_iff]
  exact early.imp Nat.sub_pos_of_lt id

/-- The last guard puts the kept hook back. -/
theorem release_last {thread : Thread} (last : routing.active ≤ 1) (shared : Bool) :
    routing.release thread false shared = (routing.discount thread).restore shared := by
  unfold release
  refine if_neg ?_
  rw [Bool.or_false, decide_eq_true_iff]
  exact Nat.not_lt.mpr (Nat.sub_le_of_le_add last)

/-- However a guard is dropped, it is counted. -/
theorem release_counts (routing : Routing) (thread : Thread) (unwinding shared : Bool) :
    (routing.release thread unwinding shared).active = (routing.discount thread).active ∧
      (routing.release thread unwinding shared).held = (routing.discount thread).held := by
  by_cases early : 1 < routing.active ∨ unwinding = true
  · rw [release_early early]
    exact ⟨rfl, rfl⟩
  · obtain ⟨last, calm⟩ := not_or.mp early
    rw [Bool.eq_false_iff.mpr calm, release_last (Nat.not_lt.mp last)]
    exact restore_counts _ shared

/-! ### Counts -/

/-- The counts are those of the live guards, each of which is given by its thread. -/
structure Counts (routing : Routing) (live : List Thread) : Prop where
  active_eq : routing.active = live.length
  held_eq : ∀ thread, routing.held thread = live.count thread

theorem counts_initial (hook : Hook) : (initial hook).Counts [] := ⟨rfl, fun _ => rfl⟩

namespace Counts

theorem install (counts : routing.Counts live) (thread : Thread) :
    (routing.install thread).Counts (thread :: live) := by
  refine ⟨?_, fun other => ?_⟩
  · rw [active_install, counts.active_eq, List.length_cons]
  · rw [held_install, counts.held_eq, counts.held_eq, List.count_cons]
    by_cases same : other = thread
    · subst same
      simp only [if_true, beq_self_eq_true]
    · have different : (thread == other) = false := beq_eq_false_iff_ne.mpr (Ne.symm same)
      rw [if_neg same, different, if_neg Bool.false_ne_true, Nat.add_zero]

/-- Dropping a live guard takes its entry off the list. -/
theorem release (counts : routing.Counts live) {thread : Thread} (member : thread ∈ live)
    (unwinding shared : Bool) :
    (routing.release thread unwinding shared).Counts (live.erase thread) := by
  obtain ⟨active, held⟩ := release_counts routing thread unwinding shared
  refine ⟨?_, fun other => ?_⟩
  · rw [active, List.length_erase_of_mem member, ← counts.active_eq]
    rfl
  · rw [held]
    show (if other = thread then routing.held thread - 1 else routing.held other) = _
    by_cases same : other = thread
    · subst same
      rw [if_pos rfl, List.count_erase_self, counts.held_eq]
    · rw [if_neg same, List.count_erase_of_ne same, counts.held_eq]

/-- The counts do not depend on the hooks. -/
theorem setHook (counts : routing.Counts live) (hook : Hook) : (routing.setHook hook).Counts live :=
  ⟨counts.active_eq, counts.held_eq⟩

theorem active_eq_zero_iff (counts : routing.Counts live) : routing.active = 0 ↔ live = [] := by
  rw [counts.active_eq, List.length_eq_zero_iff]

/-- A thread with a live guard is counted, and so is its guard. -/
theorem pos_of_mem (counts : routing.Counts live) {thread : Thread} (member : thread ∈ live) :
    0 < routing.active ∧ 0 < routing.held thread := by
  rw [counts.active_eq, counts.held_eq]
  exact ⟨List.length_pos_of_mem member, List.count_pos_iff.mpr member⟩

/-- A guard is dropped while another one is live exactly if it leaves one. -/
theorem one_lt_active_iff (counts : routing.Counts live) {thread : Thread}
    (member : thread ∈ live) : 1 < routing.active ↔ live.erase thread ≠ [] := by
  have pos := List.length_pos_of_mem member
  rw [← List.length_pos_iff, List.length_erase_of_mem member, counts.active_eq]
  omega

/-- A drop that leaves another guard live is only counted, whether its thread unwinds or not. -/
theorem release_early (counts : routing.Counts live) {thread : Thread} (member : thread ∈ live)
    (others : live.erase thread ≠ []) (unwinding shared : Bool) :
    routing.release thread unwinding shared = routing.discount thread :=
  Routing.release_early (.inl ((counts.one_lt_active_iff member).mpr others)) shared

end Counts

end Routing

end TestTree
