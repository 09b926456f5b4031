/-
This file splits texts into lines and indents them.

A line ends with a line feed, or with a carriage return and a line feed; the last line may do
without. An ending belongs to the line before it, so a text that ends with one has no empty line
after it, and the empty text has no lines at all. A carriage return elsewhere is a character like
any other.
-/

import TestTree.Panic.Payload

namespace TestTree.Text

/-! ### Lines -/

/-- The lines of a text, given as characters. -/
def linesOf : List Char → List (List Char)
  | [] => []
  | '\n' :: rest => [] :: linesOf rest
  | '\r' :: '\n' :: rest => [] :: linesOf rest
  | char :: rest =>
    match linesOf rest with
    | [] => [[char]]
    | line :: lines => (char :: line) :: lines

/-- The lines of a text without their endings. -/
def lines (text : String) : List String := (linesOf text.toList).map String.ofList

/-! ### Indentation -/

/-- The blanks in front of a line at a depth, two for each level. -/
def indentation (depth : Nat) : String := String.ofList (List.replicate (2 * depth) ' ')

/-- A memory object has at most this many bytes. -/
def largestObject : Nat := 0x7FFFFFFFFFFFFFFF

/-- Whether the blanks for a depth fit into memory at all. -/
def fits (depth : Nat) : Bool := 2 * depth ≤ largestObject

/-- The blanks for a depth, or the panic of an attempt to make more of them than fit. -/
def indent (depth : Nat) : Except Payload String :=
  if fits depth then .ok (indentation depth) else .error (.text "capacity overflow")

end TestTree.Text
