/-
This file reads a grammar as a context-free grammar. Every production of a rule is
a right-hand side for its name; a character with a rule is a nonterminal, any other
character is a terminal.

What is derived from a sentential form is found symbol by symbol: a derivation
never mixes what comes from different symbols, so the words of a form are put
together from the words of its symbols, and the words of a nonterminal are those
of its right-hand sides.
-/

import Golden.Proofs.Grammar.Rules
import Mathlib.Computability.ContextFreeGrammar

namespace Golden.Derivation

/-! ### Words of sentential forms -/

variable {T : Type} {g : ContextFreeGrammar T}

/-- The words that are derived from a sentential form. -/
def words (g : ContextFreeGrammar T) (form : List (Symbol T g.NT)) : Language T :=
  {word | g.Derives form (word.map Symbol.terminal)}

theorem mem_words {form : List (Symbol T g.NT)} {word : List T} :
    word ∈ words g form ↔ g.Derives form (word.map Symbol.terminal) := Iff.rfl

/-- A step on two forms in a row is a step on one of them. -/
theorem rewrites_append {N : Type} {rule : ContextFreeRule T N}
    {first second result : List (Symbol T N)} (step : rule.Rewrites (first ++ second) result) :
    (∃ changed, rule.Rewrites first changed ∧ result = changed ++ second) ∨
      ∃ changed, rule.Rewrites second changed ∧ result = first ++ changed := by
  induction first generalizing result with
  | nil => exact .inr ⟨result, step, rfl⟩
  | cons symbol rest inductionHypothesis =>
    cases step with
    | head => exact .inl ⟨rule.output ++ rest, .head rest, (List.append_assoc ..).symm⟩
    | cons _ later =>
      rcases inductionHypothesis later with ⟨changed, rewritten, rfl⟩ | ⟨changed, rewritten, rfl⟩
      · exact .inl ⟨symbol :: changed, .cons symbol rewritten, rfl⟩
      · exact .inr ⟨changed, rewritten, rfl⟩

/-- A derivation from two forms in a row is a derivation from each of them. -/
theorem derives_append {first second : List (Symbol T g.NT)} {word : List T}
    (derived : g.Derives (first ++ second) (word.map Symbol.terminal)) :
    ∃ before ∈ words g first, ∃ after ∈ words g second, before ++ after = word := by
  generalize both : first ++ second = form at derived
  induction derived using Relation.ReflTransGen.head_induction_on generalizing first second with
  | refl =>
    obtain ⟨before, after, rfl, rfl, rfl⟩ := List.append_eq_map_iff.mp both
    exact ⟨before, Relation.ReflTransGen.refl, after, Relation.ReflTransGen.refl, rfl⟩
  | head step _ inductionHypothesis =>
    obtain ⟨rule, member, rewritten⟩ := step
    subst both
    rcases rewrites_append rewritten with ⟨changed, part, rfl⟩ | ⟨changed, part, rfl⟩
    · obtain ⟨before, derived, rest⟩ := inductionHypothesis rfl
      exact ⟨before, Relation.ReflTransGen.head ⟨rule, member, part⟩ derived, rest⟩
    · obtain ⟨before, derived, after, derivedToo, equal⟩ := inductionHypothesis rfl
      exact ⟨before, derived, after,
        Relation.ReflTransGen.head ⟨rule, member, part⟩ derivedToo, equal⟩

theorem words_append (first second : List (Symbol T g.NT)) :
    words g (first ++ second) = words g first * words g second := by
  ext word
  rw [Language.mem_mul]
  constructor
  · exact derives_append
  · rintro ⟨before, derived, after, derivedToo, rfl⟩
    rw [mem_words, List.map_append]
    exact (ContextFreeGrammar.Derives.append_right derived second).trans
      (ContextFreeGrammar.Derives.append_left derivedToo _)

/-- Nothing is derived from a form without nonterminals but the form itself. -/
theorem eq_of_derives_of_terminals {form result : List (Symbol T g.NT)}
    (terminals : ∀ symbol ∈ form, ∃ letter, symbol = .terminal letter)
    (derived : g.Derives form result) : form = result := by
  rcases derived.eq_or_head with equal | ⟨next, step, -⟩
  · exact equal
  · obtain ⟨rule, -, member⟩ := step.exists_nonterminal_input_mem
    obtain ⟨letter, same⟩ := terminals _ member
    cases same

theorem words_nil : words g [] = 1 := by
  ext word
  rw [Language.mem_one]
  constructor
  · intro derived
    exact List.map_eq_nil_iff.mp (eq_of_derives_of_terminals (by simp) derived).symm
  · rintro rfl
    exact Relation.ReflTransGen.refl

theorem words_terminal (letter : T) : words g [.terminal letter] = {[letter]} := by
  ext word
  constructor
  · intro derived
    have equal := eq_of_derives_of_terminals (by simp) derived
    have same : [letter].map Symbol.terminal = word.map (Symbol.terminal (N := g.NT)) := equal
    exact (List.map_injective_iff.mpr (fun _ _ => Symbol.terminal.inj) same).symm
  · rintro rfl
    exact Relation.ReflTransGen.refl

/-- The words of a nonterminal are those of its right-hand sides. -/
theorem mem_words_nonterminal {name : g.NT} {word : List T} :
    word ∈ words g [.nonterminal name] ↔
      ∃ rule ∈ g.rules, rule.input = name ∧ word ∈ words g rule.output := by
  constructor
  · intro derived
    rcases ContextFreeGrammar.Derives.eq_or_head derived with equal | ⟨next, step, rest⟩
    · cases word with
      | nil => cases equal
      | cons letter others => cases equal
    · obtain ⟨rule, member, rewritten⟩ := step
      cases rewritten with
      | head =>
        rw [List.append_nil] at rest
        exact ⟨rule, member, rfl, rest⟩
      | cons _ later => cases later
  · rintro ⟨rule, member, rfl, derived⟩
    exact ContextFreeGrammar.Produces.trans_derives
      ⟨rule, member, ContextFreeRule.Rewrites.input_output⟩ derived

/-- The words of a form are put together from the words of its symbols. -/
theorem words_map {Item : Type} (items : List Item) (symbol : Item → Symbol T g.NT) :
    words g (items.map symbol) = (items.map fun item => words g [symbol item]).prod := by
  induction items with
  | nil => exact words_nil
  | cons item rest inductionHypothesis =>
    rw [List.map_cons, List.map_cons, List.prod_cons, ← inductionHypothesis,
      ← List.singleton_append, words_append]

end Golden.Derivation

namespace Golden.Grammar

/-! ### Grammars as context-free grammars -/

/-- What a character of a production stands for. -/
def symbolOf (grammar : Grammar) (character : Char) : Symbol Char String :=
  if String.singleton character ∈ grammar.names then .nonterminal (String.singleton character)
  else .terminal character

/-- The right-hand sides that a rule gives to its name. -/
def contextFreeRules (grammar : Grammar) (rule : Rule) : List (ContextFreeRule Char String) :=
  rule.productions.map fun production => ⟨rule.name, production.toList.map grammar.symbolOf⟩

/-- The context-free grammar that a grammar stands for, with a start symbol. -/
abbrev contextFree (grammar : Grammar) (start : String) : ContextFreeGrammar Char where
  NT := String
  initial := start
  rules := (grammar.rules.flatMap grammar.contextFreeRules).toFinset

theorem mem_contextFree_rules (grammar : Grammar) (start : String)
    (rule : ContextFreeRule Char String) :
    rule ∈ (grammar.contextFree start).rules ↔
      ∃ productions, grammar.productions? rule.input = some productions ∧
        ∃ production ∈ productions, rule.output = production.toList.map grammar.symbolOf := by
  show rule ∈ (grammar.rules.flatMap grammar.contextFreeRules).toFinset ↔ _
  rw [List.mem_toFinset, List.mem_flatMap]
  constructor
  · rintro ⟨⟨name, productions⟩, member, listed⟩
    obtain ⟨production, written, rfl⟩ := List.mem_map.mp listed
    exact ⟨productions, (productions?_eq_some_iff _ _ _).mpr member, production, written, rfl⟩
  · rintro ⟨productions, ruled, production, written, output⟩
    refine ⟨⟨rule.input, productions⟩, (productions?_eq_some_iff _ _ _).mp ruled, ?_⟩
    refine List.mem_map.mpr ⟨production, written, ?_⟩
    exact ContextFreeRule.ext rfl output.symm

/-- The words of a name are those of its productions. -/
theorem mem_words_name (grammar : Grammar) (start : String) {name : String}
    {productions : List String} (ruled : grammar.productions? name = some productions)
    (word : List Char) :
    word ∈ Derivation.words (grammar.contextFree start) [.nonterminal name] ↔
      ∃ production ∈ productions, word ∈ Derivation.words (grammar.contextFree start)
        (production.toList.map grammar.symbolOf) := by
  rw [Derivation.mem_words_nonterminal]
  constructor
  · rintro ⟨rule, member, rfl, derived⟩
    obtain ⟨found, same, production, written, output⟩ :=
      (mem_contextFree_rules grammar start rule).mp member
    obtain rfl : productions = found := Option.some_inj.mp (ruled.symm.trans same)
    rw [output] at derived
    exact ⟨production, written, derived⟩
  · rintro ⟨production, written, derived⟩
    exact ⟨⟨name, production.toList.map grammar.symbolOf⟩,
      (mem_contextFree_rules grammar start _).mpr ⟨productions, ruled, production, written, rfl⟩,
      rfl, derived⟩

end Golden.Grammar
