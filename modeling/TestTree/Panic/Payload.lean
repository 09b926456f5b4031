/-
This file says what a panic carries.

A panic unwinds with a payload. Whoever catches it can read the payload as a text when it is
one, and otherwise knows only that something was thrown. What the destructor of such a value does
is said where a payload is dropped. A panic is either raised, and then the process panic hook is
told of it, or resumed, and then the hook hears nothing.
-/

namespace TestTree

/-! ### Payloads -/

/-- The payload of a panic is a text, or a value that cannot be read as one. -/
inductive Payload where
  | text (message : String)
  | other
deriving DecidableEq, Inhabited

namespace Payload

/-- The message under which a caught panic is reported. A payload that is no text has a fixed
message, so every panic can be reported. -/
def message : Payload → String
  | .text content => content
  | .other => "non-string panic payload"

/-- The text of a payload, if it has one. -/
def text? : Payload → Option String
  | .text content => some content
  | .other => none

end Payload

/-! ### Ways to panic -/

/-- A panic that is about to happen: its payload, and whether the process panic hook is called
before the stack unwinds. -/
structure Panic where
  payload : Payload
  heard : Bool
deriving DecidableEq

/-- Raising a panic calls the hook. -/
def Panic.raised (payload : Payload) : Panic := ⟨payload, true⟩

/-- Resuming a panic unwinds without calling the hook. -/
def Panic.resumed (payload : Payload) : Panic := ⟨payload, false⟩

end TestTree
