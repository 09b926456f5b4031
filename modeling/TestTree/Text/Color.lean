/-
This file defines colored lines.

A line has a color or none. Written with colors on, a colored line stands between the escape
sequence that starts its color and the one that ends it; a line without a color is written as it
is. Every line ends with a line feed, which is not colored. A line is not written in one go: its
pieces, the escape sequences and the line feed are written one after another.
-/

namespace TestTree.Text

/-! ### Colors -/

/-- The colors of lines. -/
inductive Color where
  | red
  | green
  | blue
  | cyan
  | gray
deriving DecidableEq

/-- The number of a color in an escape sequence. -/
def Color.number : Color → Nat
  | .red => 31
  | .green => 32
  | .blue => 34
  | .cyan => 36
  | .gray => 90

/-- The escape sequence that selects a rendition by its number. -/
def escapeSequence (number : Nat) : String := "\x1b[" ++ toString number ++ "m"

/-- The escape sequence that starts a color. -/
def Color.start (color : Color) : String := escapeSequence color.number

/-- The escape sequence that ends all colors. -/
def reset : String := escapeSequence 0

/-! ### Lines -/

/-- A line that is about to be written, as the pieces that its text is put together from. -/
structure Line where
  color : Option Color
  pieces : List String
deriving DecidableEq

namespace Line

/-- The text of a line. -/
def text (line : Line) : String := String.join line.pieces

/-- What is written for a line one after another, with colors on or off. -/
def chunks (colored : Bool) (line : Line) : List String :=
  match line.color with
  | some color =>
    if colored then color.start :: line.pieces ++ [reset, "\n"] else line.pieces ++ ["\n"]
  | none => line.pieces ++ ["\n"]

/-- The text of a line as it is written, with colors on or off. -/
def render (colored : Bool) (line : Line) : String :=
  match line.color with
  | some color =>
    if colored then color.start ++ line.text ++ reset ++ "\n" else line.text ++ "\n"
  | none => line.text ++ "\n"

end Line

/-! ### Choosing colors -/

/-- When lines are colored: as the target of the output supports it, always, or never. -/
inductive Coloring where
  | automatic
  | always
  | never
deriving DecidableEq

/-- Whether lines are colored on a target that supports colors or does not. -/
def Coloring.use (setting : Coloring) (supported : Bool) : Bool :=
  match setting with
  | .automatic => supported
  | .always => true
  | .never => false

end TestTree.Text
