/-
This file shows that expanding a symbol keeps its language. The expansion of a rule
is text that can be read as a pattern, and the words of the pattern are those that
are derived from the name of the rule.

The proof follows the expansion. A character without a rule is a letter of the
pattern and a terminal of the grammar; a rule is a group, whose alternatives are
its productions, whose pieces are their characters. For this every rule must have
a production, no production may have a bar, and none may have a parenthesis that
stands for itself; the first two hold of every grammar that was read from a source.
-/

import Golden.Proofs.Grammar.Derivation
import Golden.Proofs.Grammar.Parsed
import Golden.Proofs.Grammar.Pattern
import Golden.Proofs.Grammar.Recursion

namespace Golden.Grammar

open Golden.Pattern

variable {grammar : Grammar} {active : List String} {symbol : String}

/-- What must hold of what a name reaches, for the expansion of the name to be a pattern. -/
structure IsPlain (grammar : Grammar) (name : String) : Prop where
  productions_ne_nil : ∀ reached, grammar.Reaches name reached →
    grammar.productions? reached ≠ some []
  letters : ∀ reached, grammar.Reaches name reached → ∀ character,
    grammar.Writes reached character → String.singleton character ∉ grammar.names →
      character ∉ ['(', '|', ')']

theorem IsPlain.of_uses {name other : String} (plain : grammar.IsPlain name)
    (use : grammar.Uses name other) : grammar.IsPlain other where
  productions_ne_nil reached way := plain.productions_ne_nil reached (way.head use)
  letters reached way := plain.letters reached (way.head use)

theorem toList_enclose (replace : Char → String) (productions : List String) :
    (enclose replace productions).toList =
      '(' :: (['|'].intercalate (productions.map fun production =>
        production.toList.flatMap fun character => (replace character).toList) ++ [')']) := by
  simp only [enclose, String.toList_append, String.toList_intercalate, List.map_map,
    Function.comp_def, String.toList_join, List.flatMap_map]
  rfl

/-- A word is among those of a sum of languages when it is among those of one of them. -/
theorem mem_sum_map {Item : Type} (items : List Item) (words : Item → Language Char)
    (word : List Char) : word ∈ (items.map words).sum ↔ ∃ item ∈ items, word ∈ words item := by
  induction items with
  | nil => simp
  | cons item rest inductionHypothesis =>
    rw [List.map_cons, List.sum_cons, Language.mem_add, inductionHypothesis]
    simp

/-- The productions of a name, each read as a sequence of pieces, are a group with the words of
the name. -/
theorem denotes_enclose (start : String) {productions : List String}
    (ruled : grammar.productions? symbol = some productions) (someProduction : productions ≠ [])
    (replace : Char → String)
    (each : ∀ character, grammar.Writes symbol character → Denotes .piece
      (replace character).toList
      (Derivation.words (grammar.contextFree start) [grammar.symbolOf character])) :
    Denotes .piece (enclose replace productions).toList
      (Derivation.words (grammar.contextFree start) [.nonterminal symbol]) := by
  have sequences : ∀ production ∈ productions, Denotes .sequence
      (production.toList.flatMap fun character => (replace character).toList)
      (Derivation.words (grammar.contextFree start)
        (production.toList.map grammar.symbolOf)) := by
    intro production member
    rw [Derivation.words_map]
    exact denotes_sequence _ _ _ fun character written =>
      each character ⟨productions, ruled, production, member, written⟩
  have alternatives := denotes_alternatives productions someProduction _ _ sequences
  have same : (productions.map fun production => Derivation.words (grammar.contextFree start)
      (production.toList.map grammar.symbolOf)).sum =
        Derivation.words (grammar.contextFree start) [.nonterminal symbol] := by
    ext word
    rw [mem_sum_map, mem_words_name grammar start ruled]
  rw [toList_enclose, ← same]
  exact alternatives.group

/-- The expansion of a rule is a group with the words of its name. -/
theorem denotes_of_expandUnder (start : String) {expansion : String}
    (plain : grammar.IsPlain symbol) (ruled : symbol ∈ grammar.names)
    (expanded : grammar.expandUnder active symbol = .ok expansion) :
    Denotes .piece expansion.toList
      (Derivation.words (grammar.contextFree start) [.nonterminal symbol]) := by
  induction active, symbol using expandUnder.induct grammar generalizing expansion with
  | case1 active symbol literal =>
    exact absurd ruled ((productions?_eq_none_iff grammar symbol).mp literal)
  | case2 active symbol productions found met =>
    rw [expandUnder_of_mem found met] at expanded
    cases expanded
  | case3 active symbol productions found fresh inductionHypothesis =>
    obtain ⟨replace, each, rfl⟩ := (expandUnder_eq_ok_iff found fresh expansion).mp expanded
    have someProduction : productions ≠ [] := by
      rintro rfl
      exact plain.productions_ne_nil symbol .refl found
    refine denotes_enclose start found someProduction replace fun character written => ?_
    by_cases further : String.singleton character ∈ grammar.names
    · rw [symbolOf, if_pos further]
      exact inductionHypothesis character (plain.of_uses ⟨further, character, written, rfl⟩)
        further (each character written)
    · have itself := each character written
      rw [expandUnder_of_no_rule ((productions?_eq_none_iff grammar _).mpr further)] at itself
      rw [symbolOf, if_neg further, ← Except.ok.inj itself, String.toList_singleton,
        Derivation.words_terminal]
      exact denotes_letter (plain.letters symbol .refl character written further)

/-- The expansion of a rule that a source states can be read as a pattern, unless some production
has a parenthesis that stands for itself; and however it is read, the words of the pattern are
those of the language of the rule. -/
theorem expansion_words_eq_language {source symbol expansion : String} {grammar : Grammar}
    (parsed : parse source = .ok grammar) (ruled : symbol ∈ grammar.names)
    (expanded : grammar.expand symbol = .ok expansion)
    (parentheses : ∀ reached, grammar.Reaches symbol reached → ∀ character ∈ ['(', ')'],
      grammar.Writes reached character → String.singleton character ∈ grammar.names) :
    (∃ pattern, Reads .alternatives expansion.toList pattern) ∧
      ∀ pattern, Reads .alternatives expansion.toList pattern →
        pattern.matches' = (grammar.contextFree symbol).language := by
  have plain : grammar.IsPlain symbol := by
    constructor
    · intro reached _ found
      exact (productions_of_parse parsed found).1 rfl
    · intro reached way character written unruled
      obtain ⟨productions, found, production, member, occurs⟩ := written
      have noBar := (productions_of_parse parsed found).2 production member
      intro special
      simp only [List.mem_cons, List.not_mem_nil, or_false] at special
      rcases special with rfl | rfl | rfl
      · exact unruled (parentheses reached way '(' (by simp)
          ⟨productions, found, production, member, occurs⟩)
      · exact noBar occurs
      · exact unruled (parentheses reached way ')' (by simp)
          ⟨productions, found, production, member, occurs⟩)
  obtain ⟨pattern, reading, words⟩ := (denotes_of_expandUnder symbol plain ruled expanded).alone
  refine ⟨⟨pattern, reading⟩, fun other otherReading => ?_⟩
  rw [matches'_unique otherReading reading, words]
  rfl

/-- A parenthesis that has a rule is no obstacle: it is expanded like any other symbol. -/
theorem expansion_words_of_parenthesis_rule :
    let grammar := (empty.add ⟨"S", ["a(B", "", "c"]⟩).add ⟨"(", ["x", "y"]⟩ |>.add ⟨"B", ["(b"]⟩
    parse "S->a(B||c\n(->x|y\nB->(b|\n" = .ok grammar ∧
      grammar.expand "S" = .ok "(a(x|y)((x|y)b)||c)" ∧
      (∃ pattern, Reads .alternatives "(a(x|y)((x|y)b)||c)".toList pattern) ∧
      ∀ pattern, Reads .alternatives "(a(x|y)((x|y)b)||c)".toList pattern →
        pattern.matches' = (grammar.contextFree "S").language := by
  intro grammar
  have parsed : parse "S->a(B||c\n(->x|y\nB->(b|\n" = .ok grammar := by rfl
  have expanded : grammar.expand "S" = .ok "(a(x|y)((x|y)b)||c)" := by decide +kernel
  refine ⟨parsed, expanded, expansion_words_eq_language parsed (by decide) expanded ?_⟩
  rintro reached - character special ⟨productions, found, production, member, occurs⟩
  rw [productions?_eq_some_iff] at found
  have unwritten : ∀ rule ∈ grammar.rules, ∀ production ∈ rule.productions,
      ')' ∉ production.toList := by decide
  simp only [List.mem_cons, List.not_mem_nil, or_false] at special
  rcases special with rfl | rfl
  · decide
  · exact absurd occurs (unwritten _ found production member)

end Golden.Grammar
