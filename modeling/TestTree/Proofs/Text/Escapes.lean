/-
This file removes escape sequences from texts.

An escape sequence that selects a rendition starts with the escape character and a bracket and ends
with an `m`. Between them stand digits and semicolons and nothing else, so no escape sequence begins
inside another. A text is read from the left: an escape sequence is left out where it begins, and
every other character is kept. What was kept is not looked at again, although it can come to look
like an escape sequence when one is left out of its middle. There is exactly one way to read a text
like this, and a text that contains no escape sequence is kept as it is.

Texts can begin and end with parts of escape sequences. A part at the end of one text and a part at
the beginning of the next make an escape sequence of the whole, unless the next text begins with a
character that no escape sequence goes on with. Escape sequences themselves begin with such a
character, and so does a line feed.
-/

import Mathlib.Data.List.Infix
import Mathlib.Data.List.TakeWhile
import TestTree.Text.Color

namespace TestTree.Text

/-! ### Escape sequences -/

/-- A character between the bracket and the end of an escape sequence. -/
def isParameter (char : Char) : Bool := char.isDigit || char == ';'

/-- An escape sequence that selects a rendition. -/
inductive IsEscape : List Char → Prop where
  | select (parameters : List Char) (allowed : ∀ char ∈ parameters, isParameter char = true) :
      IsEscape ('\x1b' :: '[' :: (parameters ++ ['m']))

/-- What follows the escape sequence that a text starts with. -/
def afterEscape? : List Char → Option (List Char)
  | '\x1b' :: '[' :: rest =>
    match rest.dropWhile isParameter with
    | 'm' :: left => some left
    | _ => none
  | _ => none

theorem afterEscape?_append {sequence : List Char} (escape : IsEscape sequence)
    (left : List Char) : afterEscape? (sequence ++ left) = some left := by
  cases escape with
  | select parameters allowed =>
    have dropped : (parameters ++ 'm' :: left).dropWhile isParameter = 'm' :: left := by
      rw [List.dropWhile_append_of_pos allowed]
      rfl
    show afterEscape? ('\x1b' :: '[' :: (parameters ++ ['m'] ++ left)) = some left
    rw [List.append_assoc, List.singleton_append, afterEscape?, dropped]
    rfl

theorem exists_of_afterEscape? {text left : List Char} (found : afterEscape? text = some left) :
    ∃ sequence, IsEscape sequence ∧ text = sequence ++ left := by
  unfold afterEscape? at found
  split at found
  · rename_i rest
    split at found
    · rename_i more dropped
      cases found
      refine ⟨_, .select (rest.takeWhile isParameter) fun char => List.mem_takeWhile_imp, ?_⟩
      show '\x1b' :: '[' :: rest = '\x1b' :: '[' :: (rest.takeWhile isParameter ++ ['m'] ++ left)
      rw [List.append_assoc, List.singleton_append, ← dropped, List.takeWhile_append_dropWhile]
    · cases found
  · cases found

theorem length_lt_of_afterEscape? {text left : List Char} (found : afterEscape? text = some left) :
    left.length < text.length := by
  obtain ⟨_, ⟨parameters, _⟩, rfl⟩ := exists_of_afterEscape? found
  simp only [List.length_append, List.length_cons]
  omega

/-! ### Leaving escape sequences out -/

/-- This is left of a text without its escape sequences. -/
inductive Strips : List Char → List Char → Prop where
  | nothing : Strips [] []
  | escape (sequence rest left : List Char) (isEscape : IsEscape sequence)
      (others : Strips rest left) : Strips (sequence ++ rest) left
  | kept (char : Char) (rest left : List Char)
      (plain : ∀ sequence, IsEscape sequence → ¬ sequence <+: char :: rest)
      (others : Strips rest left) : Strips (char :: rest) (char :: left)

/-- A text without its escape sequences. -/
def strip (text : List Char) : List Char :=
  match text with
  | [] => []
  | char :: rest =>
    match found : afterEscape? (char :: rest) with
    | some left =>
      have _shorter : left.length < (char :: rest).length := length_lt_of_afterEscape? found
      strip left
    | none => char :: strip rest
termination_by text.length
decreasing_by
  · exact _shorter
  · exact Nat.lt_succ_self rest.length

/-- A text without its escape sequences. -/
def stripEscapes (text : String) : String := String.ofList (strip text.toList)

theorem strip_nil : strip [] = [] := by rw [strip]

theorem strip_of_some {text left : List Char} (found : afterEscape? text = some left) :
    strip text = strip left := by
  cases text with
  | nil => cases found
  | cons char rest =>
    rw [strip]
    split
    · rename_i same
      rw [found] at same
      cases same
      rfl
    · rename_i missed
      rw [found] at missed
      cases missed

theorem strip_of_none {char : Char} {rest : List Char}
    (missed : afterEscape? (char :: rest) = none) : strip (char :: rest) = char :: strip rest := by
  rw [strip]
  split
  · rename_i found
    rw [missed] at found
    cases found
  · rfl

theorem strip_escape {sequence : List Char} (escape : IsEscape sequence) (rest : List Char) :
    strip (sequence ++ rest) = strip rest :=
  strip_of_some (afterEscape?_append escape rest)

theorem strips_strip (text : List Char) : Strips text (strip text) := by
  induction text using strip.induct with
  | case1 =>
    rw [strip_nil]
    exact .nothing
  | case2 char rest left found _ inductionHypothesis =>
    rw [strip_of_some found]
    obtain ⟨sequence, isEscape, same⟩ := exists_of_afterEscape? found
    rw [same]
    exact .escape sequence left _ isEscape inductionHypothesis
  | case3 char rest missed inductionHypothesis =>
    rw [strip_of_none missed]
    refine .kept char rest _ (fun sequence isEscape starts => ?_) inductionHypothesis
    obtain ⟨left, same⟩ := starts
    rw [← same, afterEscape?_append isEscape left] at missed
    cases missed

/-- There is exactly one way to leave the escape sequences of a text out. -/
theorem strips_iff (text left : List Char) : Strips text left ↔ strip text = left := by
  refine ⟨fun strips => ?_, fun same => same ▸ strips_strip text⟩
  induction strips with
  | nothing => exact strip_nil
  | escape sequence rest left isEscape _ inductionHypothesis =>
    rw [strip_escape isEscape, inductionHypothesis]
  | kept char rest left plain _ inductionHypothesis =>
    rw [strip_of_none, inductionHypothesis]
    refine Option.eq_none_iff_forall_ne_some.mpr fun after found => ?_
    obtain ⟨sequence, isEscape, same⟩ := exists_of_afterEscape? found
    exact plain sequence isEscape ⟨after, same.symm⟩

theorem strips_stripEscapes_iff (text : String) (left : List Char) :
    Strips text.toList left ↔ (stripEscapes text).toList = left := by
  rw [strips_iff, stripEscapes, String.toList_ofList]

/-! ### Texts behind one another -/

/-- A character that an escape sequence can go on with after it started. -/
def continues (char : Char) : Bool := char == '[' || isParameter char || char == 'm'

theorem IsEscape.continues_of_eq {head more : List Char} {char : Char}
    (escape : IsEscape (head ++ char :: more)) (started : head ≠ []) : continues char = true := by
  generalize same : head ++ char :: more = sequence at escape
  cases escape with
  | select parameters allowed =>
    cases head with
    | nil => exact absurd rfl started
    | cons first head =>
      have member : char ∈ '[' :: (parameters ++ ['m']) := by
        rw [← (List.cons.inj same).2]
        exact List.mem_append_right head List.mem_cons_self
      rcases List.mem_cons.mp member with rfl | member
      · rfl
      · rcases List.mem_append.mp member with inside | last
        · simp only [continues, allowed char inside, Bool.or_true, Bool.true_or]
        · obtain rfl := List.mem_singleton.mp last
          rfl

/-- No escape sequence that starts before a text goes on into it. -/
def Separate (text : List Char) : Prop := ∀ char ∈ text.head?, continues char = false

theorem separate_escape {sequence : List Char} (escape : IsEscape sequence) (rest : List Char) :
    Separate (sequence ++ rest) := by
  cases escape with
  | select parameters allowed =>
    intro char first
    cases first
    rfl

theorem separate_feed (rest : List Char) : Separate ('\n' :: rest) := by
  intro char first
  cases first
  rfl

/-- Where an escape sequence starts in a text with a separate text behind it, it also ends in the
first text. -/
theorem isPrefix_of_separate {char : Char} {rest more sequence : List Char}
    (separate : Separate more) (escape : IsEscape sequence)
    (starts : sequence <+: char :: rest ++ more) : sequence <+: char :: rest := by
  obtain ⟨left, same⟩ := starts
  rcases List.append_eq_append_iff.mp same with ⟨after, whole, _⟩ | ⟨beyond, split, following⟩
  · exact ⟨after, whole.symm⟩
  · cases beyond with
    | nil =>
      rw [split, List.append_nil]
    | cons first others =>
      have bounded : continues first = false := separate first (by rw [following]; rfl)
      rw [split] at escape
      rw [escape.continues_of_eq (List.cons_ne_nil char rest)] at bounded
      cases bounded

theorem Strips.append {first left second others : List Char} (before : Strips first left)
    (separate : Separate second) (behind : Strips second others) :
    Strips (first ++ second) (left ++ others) := by
  induction before with
  | nothing => exact behind
  | escape sequence rest left isEscape _ inductionHypothesis =>
    rw [List.append_assoc]
    exact .escape sequence _ _ isEscape inductionHypothesis
  | kept char rest left plain _ inductionHypothesis =>
    refine .kept char _ _ (fun sequence isEscape starts => ?_) inductionHypothesis
    exact plain sequence isEscape (isPrefix_of_separate separate isEscape starts)

/-- The escape sequences of a text and of a separate one behind it are those of the whole. -/
theorem strip_append (text : List Char) {rest : List Char} (separate : Separate rest) :
    strip (text ++ rest) = strip text ++ strip rest :=
  (strips_iff _ _).mp ((strips_strip text).append separate (strips_strip rest))

theorem strip_feed (rest : List Char) : strip ('\n' :: rest) = '\n' :: strip rest := by
  refine (strips_iff _ _).mp (.kept _ _ _ (fun sequence escape starts => ?_) (strips_strip rest))
  cases escape with
  | select parameters allowed => exact absurd (List.cons_prefix_cons.mp starts).1 (by decide)

/-! ### Texts without escape sequences -/

/-- A text that contains no escape sequence. -/
def Clean (text : List Char) : Prop := ∀ sequence, IsEscape sequence → ¬ sequence <:+: text

/-- Whether a text contains an escape sequence is seen where it could begin. -/
theorem clean_iff (text : List Char) :
    Clean text ↔ ∀ rest ∈ text.tails, afterEscape? rest = none := by
  constructor
  · intro clean rest member
    refine Option.eq_none_iff_forall_ne_some.mpr fun left found => ?_
    obtain ⟨sequence, escape, rfl⟩ := exists_of_afterEscape? found
    have behind : sequence ++ left <:+ text := (List.mem_tails _ text).mp member
    exact clean sequence escape ((List.prefix_append sequence left).isInfix.trans behind.isInfix)
  · rintro missed sequence escape ⟨before, left, rfl⟩
    have member : sequence ++ left ∈ (before ++ sequence ++ left).tails := by
      rw [List.append_assoc]
      exact (List.mem_tails _ _).mpr (List.suffix_append before _)
    have found := missed _ member
    rw [afterEscape?_append escape left] at found
    cases found

instance decidableClean (text : List Char) : Decidable (Clean text) :=
  decidable_of_iff _ (clean_iff text).symm

theorem Clean.of_isInfix {part text : List Char} (clean : Clean text) (inside : part <:+: text) :
    Clean part :=
  fun sequence escape found => clean sequence escape (found.trans inside)

theorem clean_of_not_mem {text : List Char} (absent : '\x1b' ∉ text) : Clean text := by
  rintro _ ⟨parameters, _⟩ found
  exact absent (found.mem List.mem_cons_self)

/-- Text without the escape character in front of a clean text starts no escape sequence. -/
theorem Clean.prepend {before text : List Char} (absent : '\x1b' ∉ before) (clean : Clean text) :
    Clean (before ++ text) := by
  intro sequence escape found
  rcases List.infix_append_iff.mp found with inside | inside | ⟨head, rest, same, ends, starts⟩
  · exact clean_of_not_mem absent sequence escape inside
  · exact clean sequence escape inside
  · cases head with
    | nil =>
      rw [same, List.nil_append] at escape
      exact clean rest escape starts.isInfix
    | cons first head =>
      cases escape with
      | select parameters allowed =>
        obtain ⟨rfl, _⟩ := List.cons.inj same
        exact absent (ends.mem List.mem_cons_self)

theorem Clean.strip_eq {text : List Char} (clean : Clean text) : strip text = text := by
  refine (strips_iff _ _).mp ?_
  induction text with
  | nil => exact .nothing
  | cons char rest inductionHypothesis =>
    refine .kept char rest rest (fun sequence escape starts => ?_) (inductionHypothesis ?_)
    · exact clean sequence escape starts.isInfix
    · exact clean.of_isInfix (List.suffix_cons char rest).isInfix

/-! ### Numbers -/

theorem isDigit_of_mem_toString {number : Nat} {char : Char}
    (member : char ∈ (toString number).toList) : char.isDigit = true := by
  rw [Nat.toString_eq_ofList_toDigits, String.toList_ofList] at member
  exact Nat.isDigit_of_mem_toDigits (by decide) (by decide) member

theorem not_mem_toString (number : Nat) : '\x1b' ∉ (toString number).toList := by
  intro member
  have digit := isDigit_of_mem_toString member
  exact absurd digit (by decide)

theorem isEscape_escapeSequence (number : Nat) : IsEscape (escapeSequence number).toList := by
  have allowed : ∀ char ∈ (toString number).toList, isParameter char = true := by
    intro char member
    rw [isParameter, isDigit_of_mem_toString member, Bool.true_or]
  rw [escapeSequence, String.toList_append, String.toList_append]
  exact .select (toString number).toList allowed

end TestTree.Text
