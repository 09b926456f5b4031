/-
This file proves which panics reach the hook of a process.

As long as nobody but guards changes the hook, the current hook is the one that the process began
with, with silencing layers around it. There can be several layers, because a last guard that is
dropped while its thread unwinds leaves its layer behind, and the next first guard puts another
one around it. All layers ask the same question, how many guards the panicking thread holds, so a
panic passes all of them or stops at the outermost one. That there is an outermost one while a
guard is live is what every install and every drop has to keep.
-/

import TestTree.Host
import TestTree.Proofs.Panic.Guards

namespace TestTree

/-! ### Layers around a hook -/

/-- A hook that notes panics under a name, with any number of silencing layers around it. -/
inductive Hook.Layered (name : String) : Hook → Prop where
  | noting : Layered name (.noting name)
  | silencing (layer : Nat) {previous : Hook} (below : Layered name previous) :
    Layered name (.silencing layer previous)

/-- The panic of a thread that holds no guard passes all layers. -/
theorem Hook.Layered.receive_zero {name : String} {hook : Hook} (layered : hook.Layered name) :
    hook.receive 0 = .heardBy name := by
  induction layered with
  | noting => rfl
  | silencing layer below inductionHypothesis =>
    rw [Hook.receive, if_pos rfl, inductionHypothesis]

/-! ### Routings that deliver -/

namespace Routing

variable {name : String} {routing : Routing} {live : List Thread}

/-- With these live guards the routing has nothing but layers around the noting hook, and at least
one of them while a guard is live. -/
structure Delivers (name : String) (routing : Routing) (live : List Thread) : Prop where
  counts : routing.Counts live
  hook : routing.hook.Layered name
  kept : ∀ kept ∈ routing.kept, kept.Layered name
  silenced : live ≠ [] → ∃ layer previous, routing.hook = .silencing layer previous

theorem delivers_initial (name : String) : (initial (.noting name)).Delivers name [] :=
  ⟨counts_initial _, .noting, fun _ member => (nomatch member), fun others => absurd rfl others⟩

namespace Delivers

/-- A thread with a live guard stops at the outermost layer, any other one gets through. -/
theorem receive (delivers : routing.Delivers name live) (thread : Thread) :
    routing.receive thread = if thread ∈ live then .absorbed else .heardBy name := by
  unfold Routing.receive
  by_cases member : thread ∈ live
  · obtain ⟨layer, previous, silencing⟩ := delivers.silenced (List.ne_nil_of_mem member)
    have held := (delivers.counts.pos_of_mem member).2
    rw [if_pos member, silencing, Hook.receive, if_neg (Nat.ne_of_gt held)]
  · rw [if_neg member, delivers.counts.held_eq, List.count_eq_zero.mpr member]
    exact delivers.hook.receive_zero

theorem install (delivers : routing.Delivers name live) (thread : Thread) :
    (routing.install thread).Delivers name (thread :: live) := by
  have counts := delivers.counts.install thread
  by_cases first : routing.active = 0
  · obtain ⟨hook, kept⟩ := install_first first thread
    refine ⟨counts, ?_, ?_, fun _ => ⟨_, _, hook⟩⟩
    · rw [hook]
      exact .silencing _ delivers.hook
    · rw [kept]
      rintro _ ⟨⟩
      exact delivers.hook
  · obtain ⟨hook, kept⟩ := install_later first thread
    have others : live ≠ [] := fun empty => first (delivers.counts.active_eq_zero_iff.mpr empty)
    refine ⟨counts, ?_, ?_, fun _ => ?_⟩
    · rw [hook]
      exact delivers.hook
    · rw [kept]
      exact delivers.kept
    · rw [hook]
      exact delivers.silenced others

/-- A drop that is only counted leaves all layers in place. One that puts the kept hook back leaves
no guard, and the kept hook has nothing but layers around it as well. -/
theorem release (delivers : routing.Delivers name live) {thread : Thread} (member : thread ∈ live)
    (unwinding : Bool) :
    (routing.release thread unwinding false).Delivers name (live.erase thread) := by
  have counts := delivers.counts.release member unwinding false
  by_cases early : 1 < routing.active ∨ unwinding = true
  · rw [release_early early] at counts ⊢
    exact ⟨counts, delivers.hook, delivers.kept, fun _ =>
      delivers.silenced (List.ne_nil_of_mem member)⟩
  · -- This was the last guard: the layer goes, and nobody is left who would need it.
    obtain ⟨last, calm⟩ := not_or.mp early
    have left : live.erase thread = [] :=
      Classical.not_not.mp fun others =>
        last ((delivers.counts.one_lt_active_iff member).mpr others)
    rw [Bool.eq_false_iff.mpr calm, release_last (Nat.not_lt.mp last)] at counts ⊢
    rw [left] at counts ⊢
    cases kept : (routing.discount thread).kept with
    | none =>
      rw [restore_none kept] at counts ⊢
      exact ⟨counts, delivers.hook, delivers.kept, fun others => absurd rfl others⟩
    | some hook =>
      obtain ⟨current, spent⟩ := restore_some kept false
      refine ⟨counts, ?_, ?_, fun others => absurd rfl others⟩
      · rw [current]
        exact delivers.kept hook kept
      · rw [spent]
        exact fun _ member => nomatch member

end Delivers

end Routing

/-! ### Signals of guards -/

namespace Signal

/-- The threads of the live guards after a signal. A guard is dropped on the thread that installed
it, so a thread without a live guard cannot drop one. -/
def guards (live : List Thread) : Signal → Option (List Thread)
  | .guardInstalled thread => some (thread :: live)
  | .guardReleased thread _ => if thread ∈ live then some (live.erase thread) else none
  | _ => some live

/-- The threads of the live guards after signals that begin without any. -/
def guardsAfter (signals : List Signal) : Option (List Thread) := signals.foldlM guards []

/-- The routing of panics after a signal. Only guards change it. -/
def reroute (routing : Routing) : Signal → Routing
  | .guardInstalled thread => routing.install thread
  | .guardReleased thread unwinding => routing.release thread unwinding false
  | _ => routing

end Signal

namespace Host

/-- Nothing but the hearing of a panic and its record in the log changes when it is announced. -/
theorem routing_panic (host : Host) (thread : Thread) (payload : Payload) :
    (host.panic thread payload).routing = host.routing := by
  unfold panic
  cases host.routing.receive thread with
  | heardBy name => rfl
  | absorbed =>
    show (if thread = .main then host.log .panicAbsorbed else host).routing = host.routing
    split <;> rfl

theorem routing_receive (host : Host) (signal : Signal) :
    (host.receive signal).routing = signal.reroute host.routing := by
  cases signal with
  | panicked thread payload => exact host.routing_panic thread payload
  | _ => rfl

theorem delivers_receive {name : String} {host : Host} {live after : List Thread}
    (delivers : host.routing.Delivers name live) (signal : Signal)
    (guarded : signal.guards live = some after) :
    (host.receive signal).routing.Delivers name after := by
  rw [routing_receive]
  cases signal with
  | guardInstalled thread =>
    obtain rfl := Option.some.inj guarded
    exact delivers.install thread
  | guardReleased thread unwinding =>
    obtain ⟨member, dropped⟩ := Option.ite_none_right_eq_some.mp guarded
    obtain rfl := Option.some.inj dropped
    exact delivers.release member unwinding
  | _ => exact Option.some.inj guarded ▸ delivers

theorem delivers_receiveAll {name : String} {host : Host} {live after : List Thread}
    (delivers : host.routing.Delivers name live) (signals : List Signal)
    (guarded : signals.foldlM Signal.guards live = some after) :
    (host.receiveAll signals).routing.Delivers name after := by
  induction signals generalizing host live with
  | nil => exact Option.some.inj guarded ▸ delivers
  | cons signal rest inductionHypothesis =>
    rw [List.foldlM_cons] at guarded
    obtain ⟨between, first, others⟩ := Option.bind_eq_some_iff.mp guarded
    exact inductionHypothesis (delivers_receive delivers signal first) others

/-- Guards come and go on any threads, some of them while their thread unwinds. At any moment a
panic reaches the hook that the process began with exactly once if its thread has no live guard,
and not at all if it has one. -/
theorem heard_panicked (name : String) (signals : List Signal) (live : List Thread)
    (guarded : Signal.guardsAfter signals = some live) (thread : Thread) (payload : Payload) :
    let host := (Host.initial (.noting name)).receiveAll signals
    (host.receive (.panicked thread payload)).heard =
      host.heard ++ if thread ∈ live then [] else [⟨name, thread, payload⟩] := by
  intro host
  have delivers : host.routing.Delivers name live :=
    delivers_receiveAll (Routing.delivers_initial name) signals guarded
  show (host.panic thread payload).heard = _
  unfold panic
  rw [delivers.receive thread]
  by_cases member : thread ∈ live
  · rw [if_pos member, if_pos member, List.append_nil]
    show (if thread = .main then host.log .panicAbsorbed else host).heard = host.heard
    split <;> rfl
  · rw [if_neg member, if_neg member]

/-- Two overlapping guards, the second of which is dropped while its thread unwinds, and then the
guard of a third thread. -/
def relapse : List Signal :=
  [.guardInstalled (.worker "first"), .guardInstalled .main,
    .guardReleased (.worker "first") false, .panicked .main .other, .guardReleased .main true,
    .guardInstalled (.worker "third")]

theorem heard_panicked_relapse :
    Signal.guardsAfter relapse = some [.worker "third"] ∧
      let host := (Host.initial (.noting "outer")).receiveAll relapse
      host.routing.hook = .silencing 2 (.silencing 1 (.noting "outer")) ∧
      (host.receive (.panicked (.worker "third") .other)).heard = [] ∧
      (host.receive (.panicked (.worker "first") .other)).heard =
        [⟨"outer", .worker "first", .other⟩] :=
  ⟨rfl, rfl, heard_panicked "outer" relapse [.worker "third"] rfl (.worker "third") .other,
    heard_panicked "outer" relapse [.worker "third"] rfl (.worker "first") .other⟩

end Host

end TestTree
