/-
This file says what a period of guards leaves behind, also when its last guard is dropped while its
thread unwinds.

Such a drop cannot change the hook. If nobody set one during the period, the silencing layer stays
around the hook from before the period, and as a layer passes on the panics of threads without
guards, nobody hears a difference. If somebody set a hook during the period, that hook stays, where
any other drop would have taken it away again. The hook that was kept aside is of no more use then:
the next period keeps aside what it finds, and gives that back.
-/

import TestTree.Proofs.Panic.Restoration

namespace TestTree

/-- A process together with the hook that somebody set last during the latest period with live
guards, if anybody did. -/
structure Watched extends Guarded where
  imposed : Option Hook

namespace Watched

/-! ### Steps -/

/-- A process with a hook and without guards. -/
def initial (hook : Hook) : Watched := ⟨.initial hook, none⟩

/-- Install a guard on a thread. If no other one is live, a period begins. -/
def install (process : Watched) (thread : Thread) : Watched :=
  ⟨process.toGuarded.install thread, if process.live = [] then none else process.imposed⟩

/-- Drop a guard on a thread that unwinds or does not. -/
def drop (process : Watched) (thread : Thread) (unwinding : Bool) : Watched :=
  ⟨⟨process.routing.release thread unwinding false, process.live.erase thread, process.outer⟩,
    process.imposed⟩

/-- Set a hook. -/
def setHook (process : Watched) (hook : Hook) : Watched :=
  ⟨process.toGuarded.setHook hook, some hook⟩

/-- A step of a process: a guard comes or goes, perhaps while its thread unwinds, or somebody sets
a hook. -/
inductive Step : Watched → Watched → Prop where
  | install (process : Watched) (thread : Thread) : Step process (process.install thread)
  | drop (process : Watched) (thread : Thread) (member : thread ∈ process.live)
      (unwinding : Bool) : Step process (process.drop thread unwinding)
  | setHook (process : Watched) (hook : Hook) : Step process (process.setHook hook)

/-- The processes that come about from one with a hook and without guards. -/
abbrev Reached (hook : Hook) : Watched → Prop := Relation.ReflTransGen Step (initial hook)

/-! ### What every step keeps -/

/-- The books are right, and while a guard is live, the current hook is the one that was set last,
or else the layer around the hook from before the period. -/
structure Sound (process : Watched) : Prop where
  guarded : process.toGuarded.Sound
  hook_eq : process.live ≠ [] → process.routing.hook =
    process.imposed.getD (.silencing process.routing.layers process.outer)

theorem sound_start (hook : Hook) : (initial hook).Sound :=
  ⟨Guarded.sound_initial hook, fun others => absurd rfl others⟩

theorem Sound.install {process : Watched} (sound : process.Sound) (thread : Thread) :
    (process.install thread).Sound := by
  refine ⟨sound.guarded.install thread, fun _ => ?_⟩
  show (process.routing.install thread).hook =
    (if process.live = [] then none else process.imposed).getD
      (.silencing (process.routing.install thread).layers
        (if process.live = [] then process.routing.hook else process.outer))
  by_cases first : process.live = []
  · have none := sound.guarded.counts.active_eq_zero_iff.mpr first
    rw [if_pos first, if_pos first, (Routing.install_first none thread).1, Routing.layers_install,
      if_pos none]
    rfl
  · have later := first ∘ sound.guarded.counts.active_eq_zero_iff.mp
    rw [if_neg first, if_neg first, (Routing.install_later later thread).1,
      Routing.layers_install, if_neg later]
    exact sound.hook_eq first

theorem Sound.drop {process : Watched} (sound : process.Sound) {thread : Thread}
    (member : thread ∈ process.live) (unwinding : Bool) :
    (process.drop thread unwinding).Sound := by
  have counts := sound.guarded.counts.release member unwinding false
  refine ⟨⟨counts, fun others => ?_⟩, fun others => ?_⟩
  · show (process.routing.release thread unwinding false).kept = some process.outer
    rw [sound.guarded.counts.release_early member others]
    exact sound.guarded.kept (List.ne_nil_of_mem member)
  · show (process.routing.release thread unwinding false).hook =
      process.imposed.getD
        (.silencing (process.routing.release thread unwinding false).layers process.outer)
    rw [sound.guarded.counts.release_early member others]
    exact sound.hook_eq (List.ne_nil_of_mem member)

theorem Sound.step {before after : Watched} (sound : before.Sound) (step : Step before after) :
    after.Sound := by
  cases step with
  | install thread => exact sound.install thread
  | drop thread member unwinding => exact sound.drop member unwinding
  | setHook hook => exact ⟨sound.guarded.step (.setHook _ hook), fun _ => rfl⟩

theorem sound_of_watched {hook : Hook} {process : Watched} (reached : Reached hook process) :
    process.Sound := by
  induction reached with
  | refl => exact sound_start hook
  | tail _ step inductionHypothesis => exact inductionHypothesis.step step

/-! ### The last drop -/

/-- On a thread that unwinds, the last drop leaves what is current. -/
theorem Sound.hook_drop_unwinding {process : Watched} (sound : process.Sound) {thread : Thread}
    (last : process.live = [thread]) :
    (process.drop thread true).routing.hook =
      process.imposed.getD (.silencing process.routing.layers process.outer) := by
  show (process.routing.release thread true false).hook = _
  rw [Routing.release_early (.inr rfl)]
  exact sound.hook_eq (last ▸ List.cons_ne_nil thread [])

/-- After the last drop no thread holds a guard. -/
theorem Sound.held_drop_last {process : Watched} (sound : process.Sound) {thread : Thread}
    (last : process.live = [thread]) (unwinding : Bool) (other : Thread) :
    (process.drop thread unwinding).routing.held other = 0 := by
  have member : thread ∈ process.live := last ▸ List.mem_cons_self
  have none : (process.drop thread unwinding).live = [] := by
    show process.live.erase thread = []
    rw [last, List.erase_cons_head]
  rw [(sound.drop member unwinding).guarded.counts.held_eq, none, List.count_nil]

/-! ### What a period leaves -/

/-- What a process comes to when a period ends, and what that means for the next one. -/
structure Leaves (process : Watched) : Prop where
  /-- A first guard begins a period: it finds a hook, and nobody has set another one yet. -/
  begins : process.live = [] → ∀ thread,
    (process.install thread).outer = process.routing.hook ∧ (process.install thread).imposed = none
  /-- As long as a guard is live, the period goes on, whatever happens. -/
  goesOn : process.live ≠ [] → ∀ after, Step process after → after.outer = process.outer
  /-- Nothing but setting a hook during a period changes which hook was set last. -/
  imposed_eq : process.live ≠ [] → ∀ after, Step process after →
    after.imposed = process.imposed ∨
      ∃ hook, after = process.setHook hook ∧ after.imposed = some hook
  /-- On a thread that does not unwind, the last drop gives back exactly the hook that the period
  found, whatever was set meanwhile. -/
  calm : ∀ thread, process.live = [thread] →
    (process.drop thread false).routing.hook = process.outer
  /-- On a thread that unwinds, the last drop leaves the hook that was set last, and without such a
  hook the layer around the one that the period found. -/
  unwinding : ∀ thread, process.live = [thread] →
    (process.drop thread true).routing.hook =
      process.imposed.getD (.silencing process.routing.layers process.outer)
  /-- If no hook was set, every panic after the period is received as it was before. -/
  unheard : process.imposed = none → ∀ thread, process.live = [thread] → ∀ unwinding other,
    (process.drop thread unwinding).routing.receive other = process.outer.receive 0

/-- However guards come and go on any threads, some of them while their threads unwind, and whatever
hooks are set meanwhile: the hook from before a period is given back if the last drop does not
unwind, and otherwise what is current stays. -/
theorem leaves_of_reached (hook : Hook) (process : Watched) (reached : Reached hook process) :
    process.Leaves := by
  have sound := sound_of_watched reached
  refine ⟨fun first thread => ⟨if_pos first, if_pos first⟩, fun others after step => ?_,
    fun others after step => ?_, fun _ last => sound.guarded.hook_drop_last last false,
    fun _ => sound.hook_drop_unwinding, fun untouched thread last unwinding other => ?_⟩
  · cases step with
    | install thread => exact if_neg others
    | drop => rfl
    | setHook => rfl
  · cases step with
    | install thread => exact .inl (if_neg others)
    | drop => exact .inl rfl
    | setHook hook => exact .inr ⟨hook, rfl, rfl⟩
  · rw [Routing.receive, sound.held_drop_last last]
    cases unwinding with
    | false => exact congrArg (Hook.receive 0) (sound.guarded.hook_drop_last last false)
    | true =>
      -- The layer asks for the guards of the thread, and there are none.
      rw [sound.hook_drop_unwinding last, untouched]
      exact if_pos rfl

/-- A process in its second period. The first ended while its thread was unwinding, and in the
second one somebody set a hook. -/
def intruded : Watched :=
  ((((initial (.noting "outer")).install .main).drop .main true).install (.worker "second")).setHook
    (.noting "foreign")

theorem leaves_of_reached_intruded :
    Reached (.noting "outer") intruded ∧ intruded.Leaves ∧
      intruded.outer = .silencing 1 (.noting "outer") ∧
      (intruded.drop (.worker "second") false).routing.hook = .silencing 1 (.noting "outer") ∧
      (intruded.drop (.worker "second") true).routing.hook = .noting "foreign" := by
  have first : Reached (.noting "outer")
      (((initial (.noting "outer")).install .main).drop .main true) :=
    .tail (.tail .refl (.install _ .main)) (.drop _ .main (by decide) true)
  have reached : Reached (.noting "outer") intruded :=
    .tail (.tail first (.install _ (.worker "second"))) (.setHook _ (.noting "foreign"))
  have leaves := leaves_of_reached _ intruded reached
  exact ⟨reached, leaves, rfl, leaves.calm (.worker "second") rfl,
    leaves.unwinding (.worker "second") rfl⟩

/-- It is not so that every last drop gives back the hook that was current before the period. -/
theorem foreign_hook_stays :
    ¬ ∀ (hook : Hook) (process : Watched), Reached hook process →
      ∀ (thread : Thread) (unwinding : Bool), process.live = [thread] →
        ∀ other,
          (process.drop thread unwinding).routing.receive other = process.outer.receive 0 := by
  intro givesBack
  have reached : Reached (.noting "driver")
      (((initial (.noting "driver")).install .main).setHook (.noting "foreign")) :=
    .tail (.tail .refl (.install _ .main)) (.setHook _ (.noting "foreign"))
  have same := givesBack _ _ reached .main true rfl .main
  exact absurd same (by decide)

end Watched

end TestTree
