/-
This file shows that a command line is read back from the line that writes it. A word
is written in one of two ways. In single quotes the reader keeps every character, and
a single quote, which would close them, is written outside of them behind a backslash.
Without quotes only words are written that have no special character, and the reader
takes each character that is not special for a part of the word, at its start as well
as within it. Either way the reader has the word, and no more than the word, when it
comes to the blank that stands before the next one.
-/

import Golden.CommandLine.Basic

namespace Golden

namespace Words

/-! ### A word in quotes -/

theorem splitFrom_quoteCharacter (begun : List Char) (character : Char) (rest : List Char) :
    splitFrom .singleQuoted begun (quoteCharacter character ++ rest) =
      splitFrom .singleQuoted (begun ++ [character]) rest := by
  unfold quoteCharacter
  split
  next isQuote =>
    -- The quotes are closed, the character stands behind a backslash, and they are opened again.
    subst isQuote
    rfl
  next other => rw [List.singleton_append, splitFrom, if_neg other]

/-- What is written within single quotes is added to the word, up to the quote that closes them. -/
theorem splitFrom_flatMap_quoteCharacter (begun word rest : List Char) :
    splitFrom .singleQuoted begun (word.flatMap quoteCharacter ++ '\'' :: rest) =
      splitFrom .word (begun ++ word) rest := by
  induction word generalizing begun with
  | nil => rw [List.flatMap_nil, List.nil_append, splitFrom, if_pos rfl, List.append_nil]
  | cons character others inductionHypothesis =>
    rw [List.flatMap_cons, List.append_assoc, splitFrom_quoteCharacter, inductionHypothesis,
      List.append_assoc, List.singleton_append]

/-! ### A word without quotes -/

theorem ordinary_of_not_special {character : Char} (plain : character ∉ special) :
    character ≠ '\'' ∧ character ≠ '"' ∧ character ≠ '\\' ∧ character ≠ '#' ∧
      isSeparator character = false := by
  simp only [special, List.mem_cons, not_or] at plain
  simp [isSeparator, plain]

theorem splitFrom_between_of_not_special {character : Char} (plain : character ∉ special)
    (begun rest : List Char) :
    splitFrom .between begun (character :: rest) =
      splitFrom .word (begun ++ [character]) rest := by
  obtain ⟨single, double, escape, sign, separates⟩ := ordinary_of_not_special plain
  rw [splitFrom, if_neg single, if_neg double, if_neg escape, separates, if_neg (by decide),
    if_neg sign]

theorem splitFrom_word_of_not_special {character : Char} (plain : character ∉ special)
    (begun rest : List Char) :
    splitFrom .word begun (character :: rest) = splitFrom .word (begun ++ [character]) rest := by
  obtain ⟨single, double, escape, -, separates⟩ := ordinary_of_not_special plain
  rw [splitFrom, if_neg single, if_neg double, if_neg escape, separates, if_neg (by decide)]

theorem splitFrom_word_append {word : List Char} (plain : ∀ character ∈ word, character ∉ special)
    (begun rest : List Char) :
    splitFrom .word begun (word ++ rest) = splitFrom .word (begun ++ word) rest := by
  induction word generalizing begun with
  | nil => rw [List.nil_append, List.append_nil]
  | cons character others inductionHypothesis =>
    obtain ⟨first, later⟩ := List.forall_mem_cons.mp plain
    rw [List.cons_append, splitFrom_word_of_not_special first, inductionHypothesis later,
      List.append_assoc, List.singleton_append]

/-! ### Words on a line -/

/-- Between two words, the reader takes what is written of a word for the word. -/
theorem splitFrom_quote (word rest : List Char) :
    splitFrom .between [] (quote word ++ rest) = splitFrom .word word rest := by
  unfold quote
  split
  next =>
    rw [List.append_assoc, List.cons_append, splitFrom, if_pos rfl, List.singleton_append,
      splitFrom_flatMap_quoteCharacter, List.nil_append]
  next unquoted =>
    simp only [Bool.or_eq_true, decide_eq_true_eq, List.any_eq_true, List.contains_iff_mem,
      not_or, not_exists, not_and] at unquoted
    obtain ⟨nonempty, plain⟩ := unquoted
    obtain ⟨character, others, rfl⟩ := List.exists_cons_of_ne_nil nonempty
    obtain ⟨first, later⟩ := List.forall_mem_cons.mp plain
    rw [List.cons_append, splitFrom_between_of_not_special first, splitFrom_word_append later,
      List.nil_append, List.singleton_append]

/-- Words are read back from the line that writes them. -/
theorem split_join (words : List (List Char)) : split (join words) = some words := by
  unfold split join
  induction words with
  | nil => rfl
  | cons word others inductionHypothesis =>
    cases others with
    | nil =>
      have alone := splitFrom_quote word []
      rw [List.append_nil] at alone
      rw [List.map_singleton, List.intercalate_singleton, alone]
      rfl
    | cons second later =>
      rw [List.map_cons] at inductionHypothesis
      rw [List.map_cons, List.map_cons, List.intercalate_cons_cons, List.append_assoc,
        splitFrom_quote, List.singleton_append, splitFrom, if_neg (by decide), if_neg (by decide),
        if_neg (by decide), if_pos (by decide), inductionHypothesis]
      rfl

end Words

namespace CommandLine

/-- A command line is read back from the line that writes it, whatever its words hold. -/
theorem parse_display (command : CommandLine) : parse command.display = .ok command := by
  have texts : (command.arguments.map String.toList).map String.ofList = command.arguments := by
    rw [List.map_map]
    exact (List.map_congr_left fun text _ => String.ofList_toList).trans (List.map_id _)
  unfold parse display
  rw [String.toList_ofList, Words.split_join, List.map_cons]
  dsimp only
  rw [String.ofList_toList, texts]

/-- Every command line is read back from the line that writes it. So the command line that is read
from a line is also read from the line that writes it, and two command lines that are written alike
are the same. -/
theorem display_reads_back :
    (∀ command : CommandLine, parse command.display = .ok command) ∧
    (∀ line, ((parse line).bind fun command => parse command.display) = parse line) ∧
    Function.Injective display := by
  refine ⟨parse_display, fun line => ?_, fun first second same => ?_⟩
  · cases parse line with
    | error fault => rfl
    | ok command => exact parse_display command
  · have read := congrArg parse same
    rw [parse_display, parse_display] at read
    exact Except.ok.inj read

/-- Words that need quotes, each for a reason of its own, and two that do not. -/
example : (CommandLine.mk "a-b" ["", "#", "it's", "c d", "\\", "\r"]).display =
    "a-b '' '#' 'it'\\''s' 'c d' '\\' \r" := by
  decide

end CommandLine

end Golden
