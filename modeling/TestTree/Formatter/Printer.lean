/-
This file defines the formatter that prints the tree as it runs.

Every event but the first becomes lines. A group is a line with its name, a test is a line with a
mark and its name, and below a test stand the lines of its failure and of the failure of its
after-each hook, one level deeper. The last event prints the counts and flushes the target. Lines
are written one by one, each of them piece by piece, and the first piece that cannot be written
ends the event.
-/

import TestTree.Formatter.Basic
import TestTree.Sink.Basic
import TestTree.Text.Color
import TestTree.Text.Lines

namespace TestTree

open Text

namespace Printer

/-! ### The lines of events -/

/-- The lines of a message in gray. A message without lines still gets one. -/
def messageLines (indent message : String) : List Line :=
  if message.isEmpty then [⟨some .gray, [indent]⟩]
  else (lines message).map fun text => ⟨some .gray, [indent, text]⟩

/-- The lines of a failure. -/
def failureLines (indent : String) (failure : Failure) : List Line :=
  messageLines indent failure.display

/-- The line that starts a group. -/
def groupLine (indent name : String) : Line := ⟨some .blue, [indent, name]⟩

/-- The lines of a test: its own line and its failure. -/
def statusLines (indent deeper name : String) : Status → List Line
  | .passed => [⟨some .green, [indent, "✓ ", name]⟩]
  | .failed failure => ⟨some .red, [indent, "✗ ", name]⟩ :: failureLines deeper failure

/-- The lines of a test with everything below it. -/
def outcomeLines (indent deeper name : String) (outcome : Outcome) : List Line :=
  statusLines indent deeper name outcome.status ++
    match outcome.teardown with
    | none => []
    | some teardown => failureLines deeper teardown

/-- The lines with the counts of a run. -/
def summaryLines (summary : Summary) : List Line :=
  [⟨none, []⟩, ⟨some .cyan, ["--- Test Summary ---"]⟩,
    ⟨some .cyan, ["Total Tests: ", toString summary.total]⟩,
    ⟨some .green, ["Passed: ", toString summary.passed]⟩,
    ⟨some .red, ["Failed: ", toString summary.failed]⟩]

/-- The lines of an event, or the panic of an indentation that does not fit into memory. All
indentations are made before the first line. -/
def linesOf : Event → Except Payload (List Line)
  | .runStart _ => .ok []
  | .groupStart name depth => do
    let indent ← indent depth
    return [groupLine indent name]
  | .testOutcome name depth outcome => do
    let own ← indent depth
    let deeper ← indent (depth + 1)
    return outcomeLines own deeper name outcome
  | .runOutcomes summary => .ok (summaryLines summary)

end Printer

/-! ### The formatter -/

/-- The state of the printing formatter: its target, and when it uses colors. -/
structure Printer (Target : Type) where
  target : Target
  setting : Coloring

namespace Printer

variable {Target : Type}

/-- Whether a line written now is colored. -/
def useColor (sink : Sink Target) (printer : Printer Target) : Bool :=
  printer.setting.use (sink.supportsColor printer.target)

/-- Write a line piece by piece, colored if a line written now is. -/
def writeLine (sink : Sink Target) (printer : Printer Target) (line : Line) :
    Printer Target × Except IoError Unit :=
  let (target, result) :=
    sink.writeTexts printer.target (line.chunks (printer.useColor sink))
  ({ printer with target := target }, result)

/-- Write lines up to the first that cannot be written. -/
def writeLines (sink : Sink Target) (printer : Printer Target) :
    List Line → Printer Target × Except IoError Unit
  | [] => (printer, .ok ())
  | line :: rest =>
    match printer.writeLine sink line with
    | (after, .ok ()) => after.writeLines sink rest
    | (after, .error error) => (after, .error error)

/-- Flush the target. -/
def flush (sink : Sink Target) (printer : Printer Target) : Printer Target × Except IoError Unit :=
  let (target, result) := sink.flush printer.target
  ({ printer with target := target }, result)

/-- Write the lines of an event, and flush after the last event of a run. -/
def print (sink : Sink Target) (printer : Printer Target) (event : Event) (lines : List Line) :
    Printer Target × Except IoError Unit :=
  match printer.writeLines sink lines with
  | (after, .ok ()) => if event.kind = .runOutcomes then after.flush sink else (after, .ok ())
  | (after, .error error) => (after, .error error)

/-- Answer an event by printing it. -/
def react (sink : Sink Target) (printer : Printer Target) (event : Event) :
    Printer Target × Reaction IoError :=
  match linesOf event with
  | .error payload => (printer, .panicked payload)
  | .ok lines =>
    match printer.print sink event lines with
    | (after, .ok ()) => (after, .accepted)
    | (after, .error error) => (after, .rejected error)

/-- The formatter that prints to a sink. -/
def formatter (sink : Sink Target) : Formatter (Printer Target) IoError := ⟨react sink⟩

end Printer

end TestTree
