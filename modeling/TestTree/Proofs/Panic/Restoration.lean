/-
This file proves that guards keep their books and give the hook back.

Guards come and go on any threads, none of them while its thread unwinds, and at any moment
somebody else sets a hook or takes the current one off. None of that is noticed by the guards:
they read the current hook only when the first of them is installed and write it only then and
when the last of them is dropped. So the kept hook of a period with live guards stays what was
current before its first guard, and this is what the last drop makes current again. Whoever took
the silencing layer in between may still have it, and then the kept hook is current by way of one
that passes panics on.
-/

import Mathlib.Logic.Relation
import TestTree.Proofs.Panic.Guards

namespace TestTree

/-- A process as far as its panic hook goes: the routing of its panics, the thread of each live
guard, and the hook that was current just before the first guard of the latest period with live
guards was installed. -/
structure Guarded where
  routing : Routing
  live : List Thread
  outer : Hook

namespace Guarded

/-! ### Steps -/

/-- A process with a hook and without guards. -/
def initial (hook : Hook) : Guarded := ⟨.initial hook, [], hook⟩

/-- Install a guard on a thread. If no other one is live, a period begins. -/
def install (process : Guarded) (thread : Thread) : Guarded :=
  ⟨process.routing.install thread, thread :: process.live,
    if process.live = [] then process.routing.hook else process.outer⟩

/-- Drop a guard on a thread that does not unwind, while somebody has the layer of the guards or
nobody has. -/
def drop (process : Guarded) (thread : Thread) (shared : Bool) : Guarded :=
  ⟨process.routing.release thread false shared, process.live.erase thread, process.outer⟩

/-- Set a hook. -/
def setHook (process : Guarded) (hook : Hook) : Guarded :=
  { process with routing := process.routing.setHook hook }

/-- Take the current hook off, so that the standard one is current. -/
def takeHook (process : Guarded) (standard : Hook) : Guarded :=
  { process with routing := (process.routing.takeHook standard).2 }

/-- A step of a process: a guard comes or goes, or somebody sets or takes a hook. Only a live guard
can be dropped, and it is dropped on the thread that installed it. -/
inductive Step : Guarded → Guarded → Prop where
  | install (process : Guarded) (thread : Thread) : Step process (process.install thread)
  | drop (process : Guarded) (thread : Thread) (member : thread ∈ process.live) (shared : Bool) :
    Step process (process.drop thread shared)
  | setHook (process : Guarded) (hook : Hook) : Step process (process.setHook hook)
  | takeHook (process : Guarded) (standard : Hook) : Step process (process.takeHook standard)

/-- The processes that come about from one with a hook and without guards. -/
abbrev Reached (hook : Hook) : Guarded → Prop := Relation.ReflTransGen Step (initial hook)

/-! ### What every step keeps -/

/-- The counts are those of the live guards, and while there is one, the kept hook is the one from
before the period. -/
structure Sound (process : Guarded) : Prop where
  counts : process.routing.Counts process.live
  kept : process.live ≠ [] → process.routing.kept = some process.outer

theorem sound_initial (hook : Hook) : (initial hook).Sound :=
  ⟨Routing.counts_initial hook, fun others => absurd rfl others⟩

theorem Sound.install {process : Guarded} (sound : process.Sound) (thread : Thread) :
    (process.install thread).Sound := by
  refine ⟨sound.counts.install thread, fun _ => ?_⟩
  show (process.routing.install thread).kept =
    some (if process.live = [] then process.routing.hook else process.outer)
  by_cases first : process.live = []
  · rw [if_pos first]
    exact (Routing.install_first (sound.counts.active_eq_zero_iff.mpr first) thread).2
  · have later := first ∘ sound.counts.active_eq_zero_iff.mp
    rw [if_neg first, (Routing.install_later later thread).2]
    exact sound.kept first

theorem Sound.drop {process : Guarded} (sound : process.Sound) {thread : Thread}
    (member : thread ∈ process.live) (shared : Bool) : (process.drop thread shared).Sound := by
  refine ⟨sound.counts.release member false shared, fun others => ?_⟩
  show (process.routing.release thread false shared).kept = some process.outer
  rw [sound.counts.release_early member others]
  exact sound.kept (List.ne_nil_of_mem member)

/-- Every step keeps the books right. Whoever sets or takes a hook changes neither the counts nor
the kept hook. -/
theorem Sound.step {before after : Guarded} (sound : before.Sound) (step : Step before after) :
    after.Sound := by
  cases step with
  | install thread => exact sound.install thread
  | drop thread member shared => exact sound.drop member shared
  | setHook hook => exact ⟨sound.counts.setHook hook, sound.kept⟩
  | takeHook standard => exact ⟨sound.counts.setHook standard, sound.kept⟩

theorem sound_of_reached {hook : Hook} {process : Guarded} (reached : Reached hook process) :
    process.Sound := by
  induction reached with
  | refl => exact sound_initial hook
  | tail _ step inductionHypothesis => exact inductionHypothesis.step step

/-! ### The last drop -/

/-- A hook that passes panics on does with every panic what the other hook does. -/
theorem receive_forwarding (shared : Bool) (hook : Hook) (guards : Nat) :
    (if shared then Hook.forwarding hook else hook).receive guards = hook.receive guards := by
  cases shared <;> rfl

/-- The last drop of a period makes the hook from before the period current, by way of one that
passes panics on if somebody has the layer. -/
theorem Sound.hook_drop_last {process : Guarded} (sound : process.Sound) {thread : Thread}
    (last : process.live = [thread]) (shared : Bool) :
    (process.drop thread shared).routing.hook =
      if shared then .forwarding process.outer else process.outer := by
  have active : process.routing.active ≤ 1 := by
    rw [sound.counts.active_eq, last]
    exact Nat.le_refl 1
  have kept : (process.routing.discount thread).kept = some process.outer :=
    sound.kept (last ▸ List.cons_ne_nil thread [])
  show (process.routing.release thread false shared).hook = _
  rw [Routing.release_last active, (Routing.restore_some kept shared).1]

/-- The last drop of a period makes a hook current that does with every panic what the hook from
before the period does. -/
theorem Sound.receive_drop_last {process : Guarded} (sound : process.Sound) {thread : Thread}
    (last : process.live = [thread]) (shared : Bool) (guards : Nat) :
    (process.drop thread shared).routing.hook.receive guards = process.outer.receive guards := by
  rw [sound.hook_drop_last last, receive_forwarding]

/-! ### All books of a process -/

/-- The books of a process are right, its hook is left alone but at the beginning and at the end of
a period with live guards, and at the end it is what it was at the beginning. -/
structure Bookkept (process : Guarded) : Prop where
  /-- The process counts its live guards. -/
  active_eq : process.routing.active = process.live.length
  /-- Each thread counts the live guards that it installed. -/
  held_eq : ∀ thread, process.routing.held thread = process.live.count thread
  /-- A drop finds both counts positive, so neither is cut off at zero. -/
  counted : ∀ thread ∈ process.live, 0 < process.routing.active ∧ 0 < process.routing.held thread
  /-- While a guard is live, the hook from before the period is kept. -/
  kept : process.live ≠ [] → process.routing.kept = some process.outer
  /-- An install while another guard is live leaves the hook alone. -/
  install_hook : process.live ≠ [] → ∀ thread,
    (process.install thread).routing.hook = process.routing.hook
  /-- A drop that leaves another guard live leaves the hook alone. -/
  drop_hook : ∀ thread ∈ process.live, (process.drop thread false).live ≠ [] → ∀ shared,
    (process.drop thread shared).routing.hook = process.routing.hook
  /-- A first guard begins a period, and what is current then is what the period gives back. -/
  install_outer : process.live = [] → ∀ thread,
    (process.install thread).outer = process.routing.hook
  /-- Any other step leaves the period as it is. -/
  step_outer : process.live ≠ [] → ∀ after, Step process after → after.outer = process.outer
  /-- The drop of the last guard gives the hook back, whatever was set and taken in between. -/
  restored : ∀ thread, process.live = [thread] → ∀ shared guards,
    (process.drop thread shared).routing.hook.receive guards = process.outer.receive guards

/-- However guards come and go on any threads, none while its thread unwinds, and whatever hooks are
set and taken meanwhile, the books are right and each period gives back the hook it found. -/
theorem bookkept_of_reached (hook : Hook) (process : Guarded) (reached : Reached hook process) :
    process.Bookkept := by
  have sound := sound_of_reached reached
  exact {
    active_eq := sound.counts.active_eq
    held_eq := sound.counts.held_eq
    counted := fun thread member => sound.counts.pos_of_mem member
    kept := sound.kept
    install_hook := fun others thread =>
      (Routing.install_later (others ∘ sound.counts.active_eq_zero_iff.mp) thread).1
    drop_hook := fun thread member others shared => by
      have early := (sound.counts.one_lt_active_iff member).mpr others
      show (process.routing.release thread false shared).hook = process.routing.hook
      rw [Routing.release_early (.inl early)]
      rfl
    install_outer := fun first thread => if_pos first
    step_outer := fun others after step => by
      cases step with
      | install thread => exact if_neg others
      | drop thread member shared => rfl
      | setHook hook => rfl
      | takeHook standard => rfl
    restored := fun thread last shared guards => sound.receive_drop_last last shared guards }

/-- A process after a period of two guards in which the layer was taken off and is not given back,
and in a second period in which another hook was set. -/
def resumed : Guarded :=
  ((((((initial (.noting "outer")).install (.worker "first")).install .main).takeHook
    (.noting "standard")).drop (.worker "first") true).drop .main true).install .main
    |>.setHook (.noting "foreign")

theorem reached_resumed : Reached (.noting "outer") resumed := by
  have first : Reached (.noting "outer") ((((initial (.noting "outer")).install
      (.worker "first")).install .main).takeHook (.noting "standard")) :=
    .tail (.tail (.tail .refl (.install _ _)) (.install _ _)) (.takeHook _ _)
  have rest := (first.tail (.drop _ (.worker "first") (by decide) true)).tail
    (.drop _ .main (by decide) true)
  exact (rest.tail (.install _ .main)).tail (.setHook _ (.noting "foreign"))

theorem bookkept_of_reached_resumed :
    Reached (.noting "outer") resumed ∧ resumed.Bookkept ∧ resumed.live = [.main] ∧
      resumed.outer = .forwarding (.noting "outer") ∧
      ∀ guards, (resumed.drop .main false).routing.hook.receive guards = .heardBy "outer" :=
  ⟨reached_resumed, bookkept_of_reached _ resumed reached_resumed, rfl, rfl,
    (bookkept_of_reached _ resumed reached_resumed).restored .main rfl false⟩

end Guarded

end TestTree
