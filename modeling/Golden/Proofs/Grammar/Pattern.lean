/-
This file reads texts as patterns. A text is a list of alternatives with bars
between them; an alternative is a sequence of pieces and may be empty; a piece is
a single character other than a bar and the parentheses, or alternatives between
parentheses. What is read is a regular expression.

A text has at most one meaning. Whatever way a text is read, the words of the
expression are those that one pass over the text computes, with a stack of the
groups that are still open.
-/

import Mathlib.Computability.RegularExpressions

namespace Golden.Pattern

open RegularExpression

/-- The forms in which a text is read, the loosest first. -/
inductive Form
  | alternatives
  | sequence
  | piece

/-- A text is read as a regular expression. -/
inductive Reads : Form → List Char → RegularExpression Char → Prop
  /-- Any other character stands for itself. -/
  | letter {letter : Char} (plain : letter ∉ ['(', '|', ')']) :
    Reads .piece [letter] (char letter)
  | group {text : List Char} {pattern : RegularExpression Char}
    (inner : Reads .alternatives text pattern) : Reads .piece ('(' :: (text ++ [')'])) pattern
  | empty : Reads .sequence [] 1
  | append {before after : List Char} {first others : RegularExpression Char}
    (piece : Reads .piece before first) (rest : Reads .sequence after others) :
    Reads .sequence (before ++ after) (first * others)
  | last {text : List Char} {pattern : RegularExpression Char}
    (only : Reads .sequence text pattern) : Reads .alternatives text pattern
  | bar {before after : List Char} {first others : RegularExpression Char}
    (sequence : Reads .sequence before first) (rest : Reads .alternatives after others) :
    Reads .alternatives (before ++ '|' :: after) (first + others)

/-! ### One pass over a text -/

/-- A group that is still open: the words of the alternatives before the last bar, and those of
the sequence after it. -/
structure Group where
  earlier : Language Char
  current : Language Char

/-- The words of a group that ends here. -/
def Group.words (group : Group) : Language Char :=
  group.earlier + group.current

/-- The open groups after one more character, the innermost first. -/
def advance (groups : List Group) (letter : Char) : Option (List Group) :=
  match groups with
  | [] => none
  | inner :: rest =>
    if letter = '(' then some (⟨0, 1⟩ :: inner :: rest)
    else if letter = '|' then some (⟨inner.words, 1⟩ :: rest)
    else if letter = ')' then
      match rest with
      | [] => none
      | outer :: others => some (⟨outer.earlier, outer.current * inner.words⟩ :: others)
    else some (⟨inner.earlier, inner.current * {[letter]}⟩ :: rest)

/-- What one pass over a text adds to the innermost group. -/
def Adds (text : List Char) (words : Language Char) : Form → Prop
  | .alternatives => ∀ earlier outer, ∃ group : Group,
    text.foldlM advance (⟨earlier, 1⟩ :: outer) = some (group :: outer) ∧
      group.words = earlier + words
  | .sequence | .piece => ∀ earlier current outer,
    text.foldlM advance (⟨earlier, current⟩ :: outer) =
      some (⟨earlier, current * words⟩ :: outer)

/-- One pass over a text computes the words of every expression that the text is read as. -/
theorem adds_of_reads {form : Form} {text : List Char} {pattern : RegularExpression Char}
    (reading : Reads form text pattern) : Adds text pattern.matches' form := by
  induction reading with
  | letter plain =>
    intro earlier current outer
    simp only [List.mem_cons, List.not_mem_nil, or_false, not_or] at plain
    obtain ⟨notOpen, notBar, notClose⟩ := plain
    simp [advance, notOpen, notBar, notClose]
  | @group text pattern inner inductionHypothesis =>
    intro earlier current outer
    obtain ⟨group, passed, words⟩ := inductionHypothesis 0 (⟨earlier, current⟩ :: outer)
    have opened : advance (⟨earlier, current⟩ :: outer) '(' =
        some (⟨0, 1⟩ :: ⟨earlier, current⟩ :: outer) := by
      simp [advance]
    have closed : advance (group :: ⟨earlier, current⟩ :: outer) ')' =
        some (⟨earlier, current * pattern.matches'⟩ :: outer) := by
      simp [advance, words]
    rw [List.foldlM_cons, opened]
    show List.foldlM advance _ _ = _
    rw [List.foldlM_append, passed]
    simpa using closed
  | empty =>
    intro earlier current outer
    simp
  | append piece rest first others =>
    intro earlier current outer
    rw [List.foldlM_append, first]
    show List.foldlM advance _ _ = _
    rw [others, matches'_mul, mul_assoc]
  | last only inductionHypothesis =>
    intro earlier outer
    exact ⟨_, inductionHypothesis earlier 1 outer, by rw [Group.words, one_mul]⟩
  | @bar before after first others sequence rest firstAdds othersAdd =>
    intro earlier outer
    obtain ⟨group, passed, words⟩ := othersAdd (earlier + first.matches') outer
    refine ⟨group, ?_, by rw [words, matches'_add, add_assoc]⟩
    have barred : advance (⟨earlier, 1 * first.matches'⟩ :: outer) '|' =
        some (⟨earlier + first.matches', 1⟩ :: outer) := by
      simp [advance, Group.words]
    rw [List.foldlM_append, firstAdds]
    show List.foldlM advance _ _ = _
    rw [List.foldlM_cons, barred]
    exact passed

/-- All expressions that a text is read as have the same words. -/
theorem matches'_unique {text : List Char} {first second : RegularExpression Char}
    (one : Reads .alternatives text first) (other : Reads .alternatives text second) :
    first.matches' = second.matches' := by
  obtain ⟨group, passed, words⟩ := adds_of_reads one 0 []
  obtain ⟨same, passedToo, sameWords⟩ := adds_of_reads other 0 []
  obtain rfl : group = same := by
    rw [passed] at passedToo
    exact (List.cons.inj (Option.some_inj.mp passedToo)).1
  rw [words, zero_add, zero_add] at sameWords
  exact sameWords

/-! ### Texts with known words -/

/-- A text can be read in a form, with the given words. -/
def Denotes (form : Form) (text : List Char) (words : Language Char) : Prop :=
  ∃ pattern, Reads form text pattern ∧ pattern.matches' = words

theorem denotes_letter {letter : Char} (plain : letter ∉ ['(', '|', ')']) :
    Denotes .piece [letter] {[letter]} :=
  ⟨_, .letter plain, matches'_char letter⟩

theorem Denotes.group {text : List Char} {words : Language Char}
    (inner : Denotes .alternatives text words) : Denotes .piece ('(' :: (text ++ [')'])) words := by
  obtain ⟨pattern, reading, equal⟩ := inner
  exact ⟨pattern, .group reading, equal⟩

/-- Pieces one after another are a sequence, whose words are put together from theirs. -/
theorem denotes_sequence {Item : Type} (items : List Item) (text : Item → List Char)
    (words : Item → Language Char)
    (each : ∀ item ∈ items, Denotes .piece (text item) (words item)) :
    Denotes .sequence (items.flatMap text) (items.map words).prod := by
  induction items with
  | nil => exact ⟨1, .empty, matches'_epsilon⟩
  | cons item rest inductionHypothesis =>
    obtain ⟨first, piece, firstWords⟩ := each item List.mem_cons_self
    obtain ⟨others, sequence, otherWords⟩ :=
      inductionHypothesis fun other member => each other (List.mem_cons_of_mem _ member)
    refine ⟨first * others, .append piece sequence, ?_⟩
    rw [matches'_mul, firstWords, otherWords, List.map_cons, List.prod_cons]

/-- Sequences with bars between them are alternatives, whose words are those of all of them. -/
theorem denotes_alternatives {Item : Type} (items : List Item) (someItem : items ≠ [])
    (text : Item → List Char) (words : Item → Language Char)
    (each : ∀ item ∈ items, Denotes .sequence (text item) (words item)) :
    Denotes .alternatives (['|'].intercalate (items.map text)) (items.map words).sum := by
  induction items with
  | nil => exact absurd rfl someItem
  | cons item rest inductionHypothesis =>
    obtain ⟨first, sequence, firstWords⟩ := each item List.mem_cons_self
    rw [List.map_cons, List.map_cons, List.sum_cons]
    cases rest with
    | nil =>
      rw [List.map_nil, List.map_nil, List.intercalate_singleton, List.sum_nil, add_zero]
      exact ⟨first, .last sequence, firstWords⟩
    | cons next others =>
      obtain ⟨later, alternatives, laterWords⟩ := inductionHypothesis (List.cons_ne_nil _ _)
        fun other member => each other (List.mem_cons_of_mem _ member)
      have joined : ['|'].intercalate (text item :: (next :: others).map text) =
          text item ++ '|' :: ['|'].intercalate ((next :: others).map text) := by
        simp [List.intercalate_cons_cons]
      rw [joined]
      refine ⟨first + later, .bar sequence alternatives, ?_⟩
      rw [matches'_add, firstWords, laterWords]

/-- A piece alone is a text of alternatives. -/
theorem Denotes.alone {text : List Char} {words : Language Char}
    (piece : Denotes .piece text words) : Denotes .alternatives text words := by
  obtain ⟨pattern, reading, equal⟩ := piece
  refine ⟨pattern * 1, ?_, ?_⟩
  · have sequence := Reads.append reading .empty
    rw [List.append_nil] at sequence
    exact .last sequence
  · rw [matches'_mul, matches'_epsilon, mul_one, equal]

end Golden.Pattern
