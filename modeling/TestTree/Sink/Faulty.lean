/-
This file defines a sink with planned troubles.

The sink keeps every byte it takes. At chosen positions it fails, takes nothing, or is
interrupted, each for a number of times or for good, and a write that comes near such a position
takes the bytes up to it and no more. It can also be limited to a number of bytes for each write,
and its flushes can be made to fail.
-/

import TestTree.Sink.Basic

namespace TestTree

/-! ### Troubles -/

/-- What happens to a write at a certain position. `none` stands for no end of it; interruptions
always have an end. -/
inductive Trouble where
  | takesNothing (uses : Option Nat)
  | fails (error : IoError) (uses : Option Nat)
  | interrupts (uses : Nat)
deriving DecidableEq

namespace Trouble

/-- Whether a trouble can still happen. -/
def usable : Trouble → Bool
  | .takesNothing uses => uses != some 0
  | .fails _ uses => uses != some 0
  | .interrupts uses => uses != 0

/-- A trouble after it happened once more. -/
def use : Trouble → Trouble
  | .takesNothing uses => .takesNothing (uses.map (· - 1))
  | .fails error uses => .fails error (uses.map (· - 1))
  | .interrupts uses => .interrupts (uses - 1)

/-- The answer to the write that a trouble happens to. -/
def answer : Trouble → Offer
  | .takesNothing _ => .taken 0
  | .fails error _ => .failed error
  | .interrupts _ => .interrupted

/-- How often a trouble can still interrupt. -/
def interruptions : Trouble → Nat
  | .interrupts uses => uses
  | _ => 0

theorem interruptions_use_lt (trouble : Trouble) (usable : trouble.usable = true)
    (interrupted : trouble.answer = .interrupted) :
    trouble.use.interruptions < trouble.interruptions := by
  cases trouble with
  | takesNothing => simp [answer] at interrupted
  | fails => simp [answer] at interrupted
  | interrupts uses =>
    have positive : uses ≠ 0 := by simpa [Trouble.usable] using usable
    simp only [use, interruptions]
    omega

end Trouble

/-- A trouble at a position, counted in bytes taken so far. -/
structure Fault where
  position : Nat
  trouble : Trouble
deriving DecidableEq

namespace Fault

/-- The first fault in the list that is usable at a position happens: its trouble, and the faults
with one use less. -/
def strike (position : Nat) : List Fault → Option (Trouble × List Fault)
  | [] => none
  | fault :: rest =>
    if fault.position = position ∧ fault.trouble.usable then
      some (fault.trouble, { fault with trouble := fault.trouble.use } :: rest)
    else (strike position rest).map fun struck => (struck.1, fault :: struck.2)

/-- How many bytes can be taken at a position before the next fault comes up. -/
def room (position : Nat) (faults : List Fault) : Option Nat :=
  ((faults.filter fun fault => position < fault.position && fault.trouble.usable).map
    fun fault => fault.position - position).min?

/-- How often a list of faults can still interrupt. -/
def interruptions (faults : List Fault) : Nat :=
  faults.foldr (fun fault total => fault.trouble.interruptions + total) 0

theorem interruptions_strike_lt {position : Nat} {faults left : List Fault} {trouble : Trouble}
    (struck : strike position faults = some (trouble, left))
    (interrupted : trouble.answer = .interrupted) :
    interruptions left < interruptions faults := by
  induction faults generalizing left with
  | nil => simp [strike] at struck
  | cons fault rest inductionHypothesis =>
    unfold strike at struck
    split at struck
    · rename_i here
      obtain ⟨rfl, rfl⟩ := Prod.mk.inj (Option.some.inj struck)
      have fewer := fault.trouble.interruptions_use_lt here.2 interrupted
      simp only [interruptions, List.foldr_cons] at *
      omega
    · obtain ⟨later, found, same⟩ := Option.map_eq_some_iff.1 struck
      obtain ⟨rfl, rfl⟩ := Prod.mk.inj same
      have fewer := inductionHypothesis found
      simp only [interruptions, List.foldr_cons] at *
      omega

end Fault

/-! ### The sink -/

/-- A target that keeps what is written to it. -/
structure FaultyTarget where
  color : Bool
  chunk : Option Nat
  flushFailure : Option String
  faults : List Fault
  written : Array UInt8
  flushes : Nat

namespace FaultyTarget

/-- A target that takes everything. -/
def plain : FaultyTarget := ⟨false, none, none, [], #[], 0⟩

/-- The number of bytes that a write may take where no fault happens. -/
def limit (target : FaultyTarget) (offered : Nat) : Nat :=
  let room := (Fault.room target.written.size target.faults).getD offered
  min offered (min room (target.chunk.getD offered))

/-- The answer to a write. -/
def offer (target : FaultyTarget) (bytes : List UInt8) : FaultyTarget × Offer :=
  match Fault.strike target.written.size target.faults with
  | some (trouble, left) => ({ target with faults := left }, trouble.answer)
  | none =>
    let count := target.limit bytes.length
    ({ target with written := target.written ++ bytes.take count }, .taken count)

/-- A flush is counted, and fails if it was made to. -/
def flush (target : FaultyTarget) : FaultyTarget × Except IoError Unit :=
  ({ target with flushes := target.flushes + 1 }, match target.flushFailure with
    | none => .ok ()
    | some message => .error ⟨"Other", message⟩)

theorem offer_color (target : FaultyTarget) (bytes : List UInt8) :
    (target.offer bytes).1.color = target.color := by
  unfold offer
  split <;> rfl

theorem offer_interruptions (target : FaultyTarget) (bytes : List UInt8)
    (interrupted : (target.offer bytes).2 = .interrupted) :
    Fault.interruptions (target.offer bytes).1.faults < Fault.interruptions target.faults := by
  unfold offer at *
  split at interrupted
  · rename_i trouble left struck
    exact Fault.interruptions_strike_lt struck interrupted
  · cases interrupted

/-- Targets with planned troubles as sinks. -/
def sink : Sink FaultyTarget where
  supportsColor := FaultyTarget.color
  offer := offer
  flush := flush
  patience target := Fault.interruptions target.faults
  offer_supportsColor := offer_color
  offer_patience := offer_interruptions

end FaultyTarget

end TestTree
