/-
This file proves that colored output and plain output say the same.

A color is an escape sequence in front of a line and another one behind it. Names and messages are
printed as they are, and they may contain escape sequences or parts of them right beside the colors.
This joins nothing and swallows nothing: an escape sequence that starts before a color or before the
end of a line does not go on into it. Without the escape sequences, colored and plain output are the
same text, and if no name and no message contains an escape sequence, it is the plain output itself.
-/

import TestTree.Proofs.Formatter.Rendering
import TestTree.Proofs.Text.Escapes

namespace TestTree

open Text

/-! ### Lines -/

/-- A line and its ending are read apart. -/
theorem Text.strip_ended (text rest : List Char) :
    strip (text ++ '\n' :: rest) = strip text ++ '\n' :: strip rest := by
  rw [strip_append text (separate_feed rest), strip_feed]

namespace Text.Line

/-- A line without its escape sequences does not depend on colors, and neither does what follows. -/
theorem strip_render (colored : Bool) (line : Line) (rest : List Char) :
    strip ((line.render colored).toList ++ rest) =
      strip line.text.toList ++ '\n' :: strip rest := by
  have plain : strip ((line.text ++ "\n").toList ++ rest) =
      strip line.text.toList ++ '\n' :: strip rest := by
    rw [String.toList_append, List.append_assoc]
    exact strip_ended _ rest
  obtain ⟨color, pieces⟩ := line
  cases color with
  | none => exact plain
  | some color =>
    cases colored with
    | false => exact plain
    | true =>
      have ending : IsEscape reset.toList := isEscape_escapeSequence 0
      simp only [render, if_true, String.toList_append, List.append_assoc]
      rw [Color.start, strip_escape (isEscape_escapeSequence color.number),
        strip_append _ (separate_escape ending _), strip_escape ending]
      exact congrArg (_ ++ ·) (strip_feed rest)

/-- Lines without their escape sequences do not depend on colors. -/
theorem strip_join_render (colored : Bool) (lines : List Line) :
    strip (String.join (lines.map (render colored))).toList =
      lines.flatMap fun line => strip line.text.toList ++ ['\n'] := by
  induction lines with
  | nil => exact strip_nil
  | cons line rest inductionHypothesis =>
    rw [List.map_cons, String.join_cons, String.toList_append, strip_render, inductionHypothesis,
      List.flatMap_cons, List.append_assoc, List.singleton_append]

end Text.Line

/-! ### Events -/

/-- A failure whose message contains no escape sequence. -/
def Failure.Clean (failure : Failure) : Prop := Text.Clean failure.message.toList

/-- An event in which no name and no message contains an escape sequence. -/
def Event.Clean : Event → Prop
  | .groupStart name _ => Text.Clean name.toList
  | .testOutcome name _ outcome =>
    Text.Clean name.toList ∧ (∀ failure ∈ outcome.status.failure?, failure.Clean) ∧
      ∀ failure ∈ outcome.teardown, failure.Clean
  | .runStart _ | .runOutcomes _ => True

theorem Text.not_mem_indentation (depth : Nat) : '\x1b' ∉ (indentation depth).toList := by
  rw [indentation, String.toList_ofList]
  exact fun member => absurd (List.eq_of_mem_replicate member) (by decide)

/-- Pieces without the escape character in front of a clean text make a clean text of the whole. -/
theorem Text.clean_join {pieces : List String} {text : String}
    (absent : ∀ piece ∈ pieces, '\x1b' ∉ piece.toList) (clean : Clean text.toList) :
    Clean (String.join (pieces ++ [text])).toList := by
  induction pieces with
  | nil => rwa [List.nil_append, String.join_cons, String.join_nil, String.append_empty]
  | cons piece rest inductionHypothesis =>
    obtain ⟨own, others⟩ := List.forall_mem_cons.mp absent
    rw [List.cons_append, String.join_cons, String.toList_append]
    exact (inductionHypothesis others).prepend own

theorem Failure.Clean.display {failure : Failure} (clean : failure.Clean) :
    Text.Clean failure.display.toList := by
  obtain ⟨phase, cause⟩ := failure
  cases phase with
  | test => exact clean
  | beforeEach =>
    show Text.Clean ("before each hook: " ++ cause.message).toList
    rw [String.toList_append]
    exact Text.Clean.prepend (by decide) clean
  | afterEach =>
    show Text.Clean ("after each hook: " ++ cause.message).toList
    rw [String.toList_append]
    exact Text.Clean.prepend (by decide) clean

namespace Printer

/-- Lines whose texts contain no escape sequence. -/
def CleanLines (lines : List Line) : Prop := ∀ line ∈ lines, Clean line.text.toList

theorem cleanLines_singleton (color : Option Color) {pieces : List String} {text : String}
    (absent : ∀ piece ∈ pieces, '\x1b' ∉ piece.toList) (clean : Clean text.toList) :
    CleanLines [⟨color, pieces ++ [text]⟩] := by
  intro line member
  rw [List.mem_singleton.mp member]
  exact clean_join absent clean

theorem cleanLines_messageLines (depth : Nat) {message : String} (clean : Clean message.toList) :
    CleanLines (messageLines (indentation depth) message) := by
  unfold messageLines
  split
  · have blank : Clean (indentation depth).toList := clean_of_not_mem (not_mem_indentation depth)
    exact cleanLines_singleton (some .gray) (List.forall_mem_nil _) blank
  · intro line member
    obtain ⟨text, inside, rfl⟩ := List.mem_map.mp member
    show Clean (String.join ([indentation depth] ++ [text])).toList
    exact clean_join (List.forall_mem_singleton.mpr (not_mem_indentation depth))
      (clean.of_isInfix (isInfix_of_mem_lines inside))

theorem cleanLines_outcomeLines (depth : Nat) {name : String} {outcome : Outcome}
    (clean : (Event.testOutcome name depth outcome).Clean) :
    CleanLines (outcomeLines (indentation depth) (indentation (depth + 1)) name outcome) := by
  obtain ⟨status, teardown⟩ := outcome
  obtain ⟨named, failed, tornDown⟩ := clean
  have own : ∀ (color : Color) (mark : String), '\x1b' ∉ mark.toList →
      CleanLines [⟨some color, [indentation depth, mark] ++ [name]⟩] := by
    intro color mark absent
    refine cleanLines_singleton (some color) (List.forall_mem_cons.mpr ⟨?_, ?_⟩) named
    · exact not_mem_indentation depth
    · exact List.forall_mem_singleton.mpr absent
  have above :
      CleanLines (statusLines (indentation depth) (indentation (depth + 1)) name status) := by
    cases status with
    | passed => exact own .green "✓ " (by decide)
    | failed failure =>
      have below := cleanLines_messageLines (depth + 1) (failed failure rfl).display
      exact List.forall_mem_append.mpr ⟨own .red "✗ " (by decide), below⟩
  refine List.forall_mem_append.mpr ⟨above, ?_⟩
  cases teardown with
  | none => exact fun line member => absurd member List.not_mem_nil
  | some failure => exact cleanLines_messageLines (depth + 1) (tornDown failure rfl).display

theorem cleanLines_summaryLines (summary : Summary) : CleanLines (summaryLines summary) := by
  have counted : ∀ (words : String) (number : Nat), '\x1b' ∉ words.toList →
      Clean (String.join ([words] ++ [toString number])).toList := by
    intro words number absent
    exact clean_join (List.forall_mem_singleton.mpr absent)
      (clean_of_not_mem (not_mem_toString number))
  simp only [CleanLines, summaryLines, List.forall_mem_cons]
  exact ⟨clean_of_not_mem (by decide), clean_of_not_mem (by decide), counted _ _ (by decide),
    counted _ _ (by decide), counted _ _ (by decide), List.forall_mem_nil _⟩

theorem cleanLines_eventLines {event : Event} (fit : event.Fits) (clean : event.Clean) :
    CleanLines (eventLines event) := by
  cases event with
  | runStart => exact fun line member => absurd member List.not_mem_nil
  | groupStart name depth =>
    rw [eventLines_groupStart fit]
    show CleanLines [⟨some .blue, [indentation depth] ++ [name]⟩]
    exact cleanLines_singleton _ (List.forall_mem_singleton.mpr (not_mem_indentation depth)) clean
  | testOutcome name depth outcome =>
    rw [eventLines_testOutcome fit]
    exact cleanLines_outcomeLines depth clean
  | runOutcomes summary => exact cleanLines_summaryLines summary

/-! ### Outputs -/

/-- What is printed for events, colored or not. -/
def printed (colored : Bool) (events : List Event) : String :=
  String.join (events.map (rendering colored))

theorem printed_eq_join (colored : Bool) (events : List Event) :
    printed colored events =
      String.join ((events.flatMap eventLines).map (Line.render colored)) := by
  induction events with
  | nil => rfl
  | cons event rest inductionHypothesis =>
    rw [printed, List.map_cons, String.join_cons, List.flatMap_cons, List.map_append,
      String.join_append, ← inductionHypothesis]
    rfl

/-- Without escape sequences, colored output and plain output are the same. -/
theorem stripEscapes_printed (colored : Bool) (events : List Event) :
    stripEscapes (printed colored events) =
      String.ofList ((events.flatMap eventLines).flatMap
        fun line => strip line.text.toList ++ ['\n']) := by
  rw [stripEscapes, printed_eq_join, Line.strip_join_render]

/-- Plain output contains no more escape sequences than names and messages do. -/
theorem stripEscapes_printed_of_clean {events : List Event} (fit : ∀ event ∈ events, event.Fits)
    (clean : ∀ event ∈ events, event.Clean) :
    stripEscapes (printed false events) = printed false events := by
  have kept : ∀ line ∈ events.flatMap eventLines, strip line.text.toList ++ ['\n'] =
      (line.render false).toList := by
    intro line member
    obtain ⟨event, among, inside⟩ := List.mem_flatMap.mp member
    rw [(cleanLines_eventLines (fit event among) (clean event among) line inside).strip_eq,
      Line.render_plain, String.toList_append]
    rfl
  rw [stripEscapes_printed, List.flatMap_congr kept, printed_eq_join]
  refine String.toList_inj.mp ?_
  rw [String.toList_ofList, String.toList_join, List.flatMap_map]

variable {Target : Type} {sink : Sink Target} {IsOpen : Target → Prop}
  {written : Target → List UInt8}

open Formatter

/-- The printer accepts these events, and its target gets this output for them. -/
def Outputs (sink : Sink Target) (written : Target → List UInt8) (printer : Printer Target)
    (events : List Event) (output : String) : Prop :=
  ∃ left, (formatter sink).deliverAll (fresh printer) events = fresh ⟨left, printer.setting⟩ ∧
    written left = written printer.target ++ bytes output

theorem outputs_printed (accepting : sink.Accepting IsOpen written) {target : Target}
    (isOpen : IsOpen target) {setting : Coloring} (steady : Steady sink IsOpen setting)
    {events : List Event} (fit : ∀ event ∈ events, event.Fits) :
    Outputs sink written ⟨target, setting⟩ events
      (printed (setting.use (sink.supportsColor target)) events) :=
  added_deliverAll_of_steady accepting isOpen steady [] events fit

/-- What events print with and without colors is the same text without escape sequences, which are
left out in the only possible way, and it is the plain output if no name and no message contains
any. A target that gets colors as it supports them gets one of the two. -/
theorem colored_output_agrees (accepting : sink.Accepting IsOpen written) (events : List Event)
    (fit : ∀ event ∈ events, event.Fits) :
    ∃ plain colored : String,
      (∀ target, IsOpen target →
        Outputs sink written ⟨target, .never⟩ events plain ∧
        Outputs sink written ⟨target, .always⟩ events colored ∧
        (Steady sink IsOpen .automatic →
          Outputs sink written ⟨target, .automatic⟩ events
            (if sink.supportsColor target then colored else plain))) ∧
      stripEscapes colored = stripEscapes plain ∧
      ((∀ event ∈ events, event.Clean) → stripEscapes colored = plain) ∧
      ∀ text left, Strips text.toList left ↔ (stripEscapes text).toList = left := by
  have same : stripEscapes (printed true events) = stripEscapes (printed false events) := by
    rw [stripEscapes_printed, stripEscapes_printed]
  refine ⟨printed false events, printed true events, fun target isOpen => ⟨?_, ?_, ?_⟩, same, ?_,
    strips_stripEscapes_iff⟩
  · exact outputs_printed accepting isOpen (fun _ => rfl) fit
  · exact outputs_printed accepting isOpen (fun _ => rfl) fit
  · intro steady
    have chosen :
        (if sink.supportsColor target then printed true events else printed false events) =
          printed (Coloring.automatic.use (sink.supportsColor target)) events := by
      cases sink.supportsColor target <;> rfl
    rw [chosen]
    exact outputs_printed accepting isOpen steady fit
  · intro clean
    rw [same]
    exact stripEscapes_printed_of_clean fit clean

/-- Names and messages that begin and end with parts of escape sequences. -/
def fragments : List Event :=
  [.groupStart "31m\x1b[3" 0,
    .testOutcome "\x1b[" 1 ⟨.failed ⟨.beforeEach, .error "\x1b[0\nm\x1b"⟩, none⟩,
    .runOutcomes ⟨1, 0, 1, 0⟩]

/-- On a target that supports colors, the fragments are still there without the colors. -/
theorem colored_output_agrees_fragments :
    (∀ event ∈ fragments, event.Fits) ∧ (∀ event ∈ fragments, event.Clean) ∧ Untroubled slow ∧
      ∃ plain colored : String,
        Outputs FaultyTarget.sink (fun target => target.written.toList) ⟨slow, .never⟩ fragments
          plain ∧
        Outputs FaultyTarget.sink (fun target => target.written.toList) ⟨slow, .automatic⟩ fragments
          colored ∧
        stripEscapes colored = plain := by
  have fit : ∀ event ∈ fragments, event.Fits := by
    simp only [fragments, List.forall_mem_cons]
    exact ⟨rfl, rfl, trivial, fun event member => absurd member List.not_mem_nil⟩
  have clean : ∀ event ∈ fragments, event.Clean := by
    simp only [fragments, List.forall_mem_cons]
    refine ⟨?_, ⟨?_, ?_, ?_⟩, trivial, fun event member => absurd member List.not_mem_nil⟩
    · show Text.Clean _
      decide
    · decide
    · rintro _ ⟨⟩
      show Text.Clean _
      decide
    · exact fun failure member => nomatch member
  have untroubled : Untroubled slow := ⟨rfl, by decide, rfl⟩
  obtain ⟨plain, colored, outputs, _, stripped, _⟩ :=
    colored_output_agrees accepting_untroubled fragments fit
  obtain ⟨never, _, automatic⟩ := outputs slow untroubled
  exact ⟨fit, clean, untroubled, plain, colored, never, automatic fun _ => rfl, stripped clean⟩

end Printer

end TestTree
