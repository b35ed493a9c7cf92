/-
This file relates the rules of a grammar to what the grammar gives to its names.
The names of the rules are distinct, so a rule is in a grammar exactly when its
name is given its productions; and a property that all rules have on their own is
kept when a rule is added.
-/

import Golden.Grammar.Basic

namespace Golden.Grammar

variable {grammar : Grammar}

theorem productions?_eq_none_iff (grammar : Grammar) (name : String) :
    grammar.productions? name = none ↔ name ∉ grammar.names := by
  rw [← productions?_isSome, Option.not_isSome_iff_eq_none]

theorem mem_names_of_productions? {name : String} {productions : List String}
    (ruled : grammar.productions? name = some productions) : name ∈ grammar.names := by
  rw [← productions?_isSome, ruled]
  rfl

/-- There are no more distinct names with rules than there are rules. -/
theorem length_le_size {selected : List String} (distinct : selected.Nodup)
    (ruled : ∀ name ∈ selected, name ∈ grammar.names) : selected.length ≤ grammar.size := by
  have bound := distinct.length_le_of_subset ruled
  rwa [names, List.length_map] at bound

/-- A name is given productions exactly when it has the rule with these productions. -/
theorem productions?_eq_some_iff (grammar : Grammar) (name : String) (productions : List String) :
    grammar.productions? name = some productions ↔ ⟨name, productions⟩ ∈ grammar.rules := by
  obtain ⟨rules, distinct⟩ := grammar
  show (rules.find? fun rule => rule.name = name).map Rule.productions = some productions ↔
    ⟨name, productions⟩ ∈ rules
  induction rules with
  | nil => simp
  | cons rule rest inductionHypothesis =>
    obtain ⟨absent, distinctRest⟩ := List.nodup_cons.mp distinct
    by_cases same : rule.name = name
    · have other : ⟨name, productions⟩ ∉ rest := fun member =>
        absent (same ▸ List.mem_map_of_mem member)
      obtain ⟨ruleName, ruleProductions⟩ := rule
      subst same
      simp [other, eq_comm]
    · have different : (⟨name, productions⟩ : Rule) ≠ rule := fun equal =>
        same (congrArg Rule.name equal).symm
      rw [List.find?_cons_of_neg (by simpa using same), inductionHypothesis distinctRest]
      simp [different]

theorem eq_of_rules_eq {left right : Grammar} (same : left.rules = right.rules) : left = right := by
  cases left
  cases right
  cases same
  rfl

/-- A rule that is added joins the rules for the other names. -/
theorem mem_rules_add (grammar : Grammar) (rule other : Rule) :
    other ∈ (grammar.add rule).rules ↔
      other = rule ∨ other ∈ grammar.rules ∧ other.name ≠ rule.name := by
  simp [add, or_comm]

end Golden.Grammar
