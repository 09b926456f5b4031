/-
This file says how a text is split into lines.

A text is a sequence of lines with their endings. A line has no line feed inside, and it ends with
a line feed or with a carriage return and a line feed. The first of these endings is only meant
where no carriage return stands before it, and the last line may have no ending if it has at least
one character. There is exactly one way to read a text like this.
-/

import TestTree.Text.Lines

namespace TestTree.Text

/-! ### Lines and their endings -/

/-- The text consists of these lines with their endings. -/
inductive SplitsInto : List Char → List (List Char) → Prop where
  | nothing : SplitsInto [] []
  | unended (line : List Char) (filled : line ≠ []) (single : '\n' ∉ line) :
      SplitsInto line [line]
  | feed (line rest : List Char) (lines : List (List Char)) (single : '\n' ∉ line)
      (bare : line.getLast? ≠ some '\r') (others : SplitsInto rest lines) :
      SplitsInto (line ++ '\n' :: rest) (line :: lines)
  | returnFeed (line rest : List Char) (lines : List (List Char)) (single : '\n' ∉ line)
      (others : SplitsInto rest lines) :
      SplitsInto (line ++ '\r' :: '\n' :: rest) (line :: lines)

/-- A character that neither is nor starts an ending. -/
structure Ordinary (char : Char) (rest : List Char) : Prop where
  ne_feed : char ≠ '\n'
  not_returnFeed : char = '\r' → rest.head? ≠ some '\n'

theorem Ordinary.of_ne {char : Char} {rest : List Char} (ne_feed : char = '\n' → False)
    (not_returnFeed : ∀ others, char = '\r' → rest = '\n' :: others → False) :
    Ordinary char rest := by
  refine ⟨ne_feed, fun isReturn starts => ?_⟩
  obtain ⟨others, rfl⟩ := List.head?_eq_some_iff.mp starts
  exact not_returnFeed others isReturn rfl

/-- An ordinary character belongs to the first line of what follows. -/
theorem linesOf_cons {char : Char} {rest : List Char} (ordinary : Ordinary char rest) :
    linesOf (char :: rest) = match linesOf rest with
      | [] => [[char]]
      | line :: lines => (char :: line) :: lines := by
  rw [linesOf.eq_def]
  split
  · rename_i none
    cases none
  · rename_i same
    cases same
    exact absurd rfl ordinary.ne_feed
  · rename_i same
    cases same
    exact absurd rfl (ordinary.not_returnFeed rfl)
  · rename_i same
    cases same
    rfl

/-! ### What is read off a text is right -/

/-- An ordinary character in front of a text makes its first line longer. -/
theorem SplitsInto.cons {char : Char} {rest line : List Char} {lines : List (List Char)}
    (ordinary : Ordinary char rest) (others : SplitsInto rest (line :: lines)) :
    SplitsInto (char :: rest) ((char :: line) :: lines) := by
  have single : ∀ {line : List Char}, '\n' ∉ line → '\n' ∉ char :: line := by
    intro line single member
    rcases List.mem_cons.mp member with same | member
    · exact ordinary.ne_feed same.symm
    · exact single member
  cases others with
  | unended _ filled noFeed => exact .unended _ (List.cons_ne_nil char _) (single noFeed)
  | returnFeed _ after _ noFeed others => exact .returnFeed _ after lines (single noFeed) others
  | feed _ after _ noFeed bare others =>
    refine .feed _ after lines (single noFeed) ?_ others
    -- Only a line without characters leaves the new one in front of the ending.
    cases line with
    | nil => exact fun ends => ordinary.not_returnFeed (Option.some.inj ends) rfl
    | cons next line => rwa [List.getLast?_cons_cons]

theorem splitsInto_linesOf (text : List Char) : SplitsInto text (linesOf text) := by
  induction text using linesOf.induct with
  | case1 => exact .nothing
  | case2 rest inductionHypothesis =>
    exact .feed [] rest _ List.not_mem_nil (fun ends => by cases ends) inductionHypothesis
  | case3 rest inductionHypothesis =>
    exact .returnFeed [] rest _ List.not_mem_nil inductionHypothesis
  | case4 char rest ne_feed not_returnFeed empty inductionHypothesis =>
    have ordinary : Ordinary char rest := .of_ne ne_feed not_returnFeed
    rw [linesOf_cons ordinary]
    rw [empty] at inductionHypothesis ⊢
    cases inductionHypothesis with
    | nothing =>
      refine .unended [char] (List.cons_ne_nil char []) fun member => ?_
      exact ordinary.ne_feed (List.mem_singleton.mp member).symm
  | case5 char rest ne_feed not_returnFeed line lines same inductionHypothesis =>
    have ordinary : Ordinary char rest := .of_ne ne_feed not_returnFeed
    rw [linesOf_cons ordinary]
    rw [same] at inductionHypothesis ⊢
    exact inductionHypothesis.cons ordinary

/-! ### There is nothing else to read -/

theorem linesOf_unended {line : List Char} (filled : line ≠ []) (single : '\n' ∉ line) :
    linesOf line = [line] := by
  induction line with
  | nil => exact absurd rfl filled
  | cons char line inductionHypothesis =>
    obtain ⟨ne_feed, single⟩ := not_or.mp (mt List.mem_cons.mpr single)
    have ordinary : Ordinary char line :=
      ⟨Ne.symm ne_feed, fun _ starts => single (List.mem_of_head? starts)⟩
    rw [linesOf_cons ordinary]
    cases line with
    | nil => rfl
    | cons next line => rw [inductionHypothesis (List.cons_ne_nil next line) single]

theorem linesOf_feed {line : List Char} (rest : List Char) (single : '\n' ∉ line)
    (bare : line.getLast? ≠ some '\r') :
    linesOf (line ++ '\n' :: rest) = line :: linesOf rest := by
  induction line with
  | nil => rfl
  | cons char line inductionHypothesis =>
    obtain ⟨ne_feed, single⟩ := not_or.mp (mt List.mem_cons.mpr single)
    cases line with
    | nil =>
      have ordinary : Ordinary char ('\n' :: rest) :=
        ⟨Ne.symm ne_feed, fun isReturn _ => bare (congrArg some isReturn)⟩
      rw [List.singleton_append, linesOf_cons ordinary]
      rfl
    | cons next line =>
      have ordinary : Ordinary char (next :: line ++ '\n' :: rest) :=
        ⟨Ne.symm ne_feed, fun _ starts => single (List.mem_of_head? (l := next :: line) starts)⟩
      rw [List.getLast?_cons_cons] at bare
      rw [List.cons_append, linesOf_cons ordinary, inductionHypothesis single bare]

theorem linesOf_returnFeed {line : List Char} (rest : List Char) (single : '\n' ∉ line) :
    linesOf (line ++ '\r' :: '\n' :: rest) = line :: linesOf rest := by
  induction line with
  | nil => rfl
  | cons char line inductionHypothesis =>
    obtain ⟨ne_feed, single⟩ := not_or.mp (mt List.mem_cons.mpr single)
    have ordinary : Ordinary char (line ++ '\r' :: '\n' :: rest) := by
      refine ⟨Ne.symm ne_feed, fun _ starts => ?_⟩
      cases line with
      | nil => cases starts
      | cons next line => exact single (List.mem_of_head? (l := next :: line) starts)
    rw [List.cons_append, linesOf_cons ordinary, inductionHypothesis single]

/-- The lines that are read off a text are the only ones that it consists of. -/
theorem splitsInto_iff (text : List Char) (lines : List (List Char)) :
    SplitsInto text lines ↔ linesOf text = lines := by
  refine ⟨fun splits => ?_, fun same => same ▸ splitsInto_linesOf text⟩
  induction splits with
  | nothing => rfl
  | unended line filled single => exact linesOf_unended filled single
  | feed line rest lines single bare _ inductionHypothesis =>
    rw [linesOf_feed rest single bare, inductionHypothesis]
  | returnFeed line rest lines single _ inductionHypothesis =>
    rw [linesOf_returnFeed rest single, inductionHypothesis]

/-- A line is a part of its text. -/
theorem SplitsInto.isInfix {text : List Char} {lines : List (List Char)}
    (splits : SplitsInto text lines) : ∀ line ∈ lines, line <:+: text := by
  induction splits with
  | nothing => exact fun line member => absurd member List.not_mem_nil
  | unended text =>
    intro line member
    exact List.mem_singleton.mp member ▸ List.infix_rfl
  | feed first rest _ _ _ _ inductionHypothesis =>
    refine List.forall_mem_cons.mpr ⟨(List.prefix_append first _).isInfix, fun line member => ?_⟩
    have behind : rest <:+ first ++ '\n' :: rest :=
      (List.suffix_cons _ rest).trans (List.suffix_append first _)
    exact (inductionHypothesis line member).trans behind.isInfix
  | returnFeed first rest _ _ _ inductionHypothesis =>
    refine List.forall_mem_cons.mpr ⟨(List.prefix_append first _).isInfix, fun line member => ?_⟩
    have behind : rest <:+ first ++ '\r' :: '\n' :: rest :=
      ((List.suffix_cons _ rest).trans (List.suffix_cons _ _)).trans (List.suffix_append first _)
    exact (inductionHypothesis line member).trans behind.isInfix

theorem isInfix_of_mem_lines {text line : String} (member : line ∈ lines text) :
    line.toList <:+: text.toList := by
  refine (splitsInto_linesOf text.toList).isInfix line.toList ?_
  obtain ⟨chars, inside, rfl⟩ := List.mem_map.mp member
  rwa [String.toList_ofList]

/-- A line stands for itself as a text, so the lines of a text are the ones that it consists of. -/
theorem splitsInto_lines_iff (text : String) (pieces : List (List Char)) :
    SplitsInto text.toList pieces ↔ (lines text).map String.toList = pieces := by
  rw [splitsInto_iff, lines, List.map_map]
  have same : String.toList ∘ String.ofList = id := funext fun chars => String.toList_ofList
  rw [same, List.map_id]

/-- Only the empty text has no lines. -/
theorem lines_eq_nil_iff (text : String) : lines text = [] ↔ text.isEmpty = true := by
  rw [← List.map_eq_nil_iff (f := String.toList), ← splitsInto_lines_iff, String.isEmpty_iff]
  constructor
  · intro splits
    generalize same : text.toList = chars at splits
    cases splits
    exact String.toList_eq_nil_iff.mp same
  · rintro rfl
    exact .nothing

end TestTree.Text
