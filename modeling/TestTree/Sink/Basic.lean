/-
This file defines the places that bytes are written to.

A sink takes some of the bytes it is offered, or fails, or is interrupted before it took any.
Writing a whole text means offering what is left of it until nothing is left. Interruptions are
not failures: the same bytes are offered again. A sink therefore knows how often it can still be
interrupted, and each interruption uses some of that up, so writing ends.
-/

namespace TestTree

/-! ### Errors -/

/-- An error of a sink, of a kind that has a name. Nobody who writes looks at the kind, because an
interruption, after which the same bytes are offered again, is no error but an answer of its own. -/
structure IoError where
  kind : String
  message : String
deriving DecidableEq

/-- The error of a sink that takes no byte of what it is offered. -/
def IoError.nothingTaken : IoError := ⟨"WriteZero", "failed to write whole buffer"⟩

/-! ### Sinks -/

/-- The answer of a sink to the bytes it is offered. -/
inductive Offer where
  | taken (count : Nat)
  | interrupted
  | failed (error : IoError)
deriving DecidableEq

/-- A place that bytes are written to. Whether it supports colors does not depend on what is
written, and it can be interrupted only so often. -/
structure Sink (Target : Type) where
  supportsColor : Target → Bool
  offer : Target → List UInt8 → Target × Offer
  flush : Target → Target × Except IoError Unit
  patience : Target → Nat
  offer_supportsColor : ∀ target bytes,
    supportsColor (offer target bytes).1 = supportsColor target
  offer_patience : ∀ target bytes,
    (offer target bytes).2 = .interrupted → patience (offer target bytes).1 < patience target

namespace Sink

variable {Target : Type}

/-- Write bytes until all are taken. The first failure ends it, and so does a sink that takes
nothing. -/
def writeAll (sink : Sink Target) (target : Target) (bytes : List UInt8) :
    Target × Except IoError Unit :=
  match bytes with
  | [] => (target, .ok ())
  | first :: rest =>
    match answered : sink.offer target (first :: rest) with
    | (after, .taken 0) => (after, .error .nothingTaken)
    | (after, .taken (count + 1)) => sink.writeAll after (rest.drop count)
    | (after, .interrupted) =>
      have _fewer : sink.patience after < sink.patience target := by
        have fewer := sink.offer_patience target (first :: rest)
        rw [answered] at fewer
        exact fewer rfl
      sink.writeAll after (first :: rest)
    | (after, .failed error) => (after, .error error)
termination_by (bytes.length, sink.patience target)
decreasing_by
  · exact Prod.Lex.left _ _ (by simp only [List.length_drop, List.length_cons]; omega)
  · exact Prod.Lex.right _ _fewer

/-- Write a text in its standard encoding. -/
def writeText (sink : Sink Target) (target : Target) (text : String) :
    Target × Except IoError Unit :=
  sink.writeAll target text.toUTF8.data.toList

/-- Write texts one after another, up to the first that cannot be written. -/
def writeTexts (sink : Sink Target) (target : Target) :
    List String → Target × Except IoError Unit
  | [] => (target, .ok ())
  | text :: rest =>
    match sink.writeText target text with
    | (after, .ok ()) => sink.writeTexts after rest
    | (after, .error error) => (after, .error error)

end Sink

end TestTree
