/-
This file decides who hears of a panic.

The process has one panic hook. A guard silences it for the thread that installed the guard: the
first live guard puts a silencing layer around the current hook and keeps that hook aside, and
the last guard to go puts the kept hook back. The layer asks, for each panic, how many guards the
panicking thread holds. A thread that holds none is passed on to the hook underneath, so guards
of different threads may overlap and end in any order.

A guard that is dropped while its thread unwinds leaves the hook alone, because the hook cannot
be changed during a panic. The layer and the kept hook then stay behind, and the next first guard
puts another layer around them.

Anybody else can set hooks and take them while guards are live. The kept hook belongs to the
guards and to the layer around it together. Whoever took the layer off the process still has the
kept hook in it, so the last guard cannot have that hook for itself. It then puts a hook in place
that does nothing but pass panics on to the kept one.
-/

namespace TestTree

/-! ### Threads and hooks -/

/-- The threads that can hold guards or panic: the one that runs the suites, named workers, and
the threads on which formatters receive events. -/
inductive Thread where
  | main
  | worker (name : String)
  | formatter
deriving DecidableEq

/-- A panic hook is one that notes every panic under its own name, a silencing layer around the
hook that was current when the layer was installed, or one that passes every panic on to another
hook. Layers are numbered: two layers around equal hooks are still two. -/
inductive Hook where
  | noting (name : String)
  | silencing (layer : Nat) (previous : Hook)
  | forwarding (hook : Hook)
deriving DecidableEq

/-- What becomes of a panic: a noting hook hears it, or a silencing layer absorbs it. -/
inductive Reception where
  | heardBy (name : String)
  | absorbed
deriving DecidableEq

/-- A hook receives a panic of a thread that holds the given number of guards. The outermost
layer absorbs it as soon as that number is positive. -/
def Hook.receive (guards : Nat) : Hook → Reception
  | .noting name => .heardBy name
  | .silencing _ previous => if guards = 0 then previous.receive guards else .absorbed
  | .forwarding hook => hook.receive guards

/-- Whether a hook is the silencing layer with a number. -/
def Hook.isLayer (number : Nat) : Hook → Bool
  | .silencing layer _ => layer == number
  | _ => false

/-! ### Guards -/

/-- The process-wide state behind the guards: the current hook, the number of live guards, the
hook kept aside while a silencing layer is installed, the number of layers installed so far, and
the guards that each thread holds. -/
structure Routing where
  hook : Hook
  active : Nat
  kept : Option Hook
  layers : Nat
  held : Thread → Nat

namespace Routing

/-- No guard is live and the given hook is current. -/
def initial (hook : Hook) : Routing := ⟨hook, 0, none, 0, fun _ => 0⟩

/-- Replace the number of guards held by one thread. -/
def setHeld (routing : Routing) (thread : Thread) (count : Nat) : Routing :=
  { routing with held := fun other => if other = thread then count else routing.held other }

/-- Put a silencing layer around the current hook and keep that hook aside. -/
def silence (routing : Routing) : Routing :=
  { routing with
    hook := .silencing (routing.layers + 1) routing.hook
    kept := some routing.hook
    layers := routing.layers + 1 }

/-- Install a guard on a thread. Only the first live guard of the process touches the hook. -/
def install (routing : Routing) (thread : Thread) : Routing :=
  let layered := if routing.active = 0 then routing.silence else routing
  { layered.setHeld thread (layered.held thread + 1) with active := layered.active + 1 }

/-- Put the hook that was kept aside back, if there is one. The current hook is gone then. A kept
hook that is shared, because somebody else has the layer around it, is put back by a hook that
passes panics on to it. -/
def restore (routing : Routing) (shared : Bool) : Routing :=
  match routing.kept with
  | none => routing
  | some hook => { routing with hook := if shared then .forwarding hook else hook, kept := none }

/-- Count one guard less on a thread. -/
def discount (routing : Routing) (thread : Thread) : Routing :=
  { routing.setHeld thread (routing.held thread - 1) with active := routing.active - 1 }

/-- Drop a guard on a thread. The hook is put back when no guard is left, unless the thread is
unwinding: then the layer and the kept hook both stay. -/
def release (routing : Routing) (thread : Thread) (unwinding shared : Bool) : Routing :=
  let counted := routing.discount thread
  if counted.active > 0 || unwinding then counted else counted.restore shared

/-- Make another hook current, whatever guards are live. -/
def setHook (routing : Routing) (hook : Hook) : Routing := { routing with hook := hook }

/-- Take the current hook off the process and make another one current. -/
def takeHook (routing : Routing) (other : Hook) : Hook × Routing :=
  (routing.hook, routing.setHook other)

/-- What becomes of a panic on a thread. -/
def receive (routing : Routing) (thread : Thread) : Reception :=
  routing.hook.receive (routing.held thread)

end Routing

end TestTree
