/-
This file introduces grammars. A grammar gives productions to finitely many
names, one list of productions to each. What matters about a grammar is only
which productions it gives to a name; the order in which the rules are kept is
the order in which they were last stated.
-/

import Golden.Text.Trim

namespace Golden

/-- One rule: a name and what it may be replaced by. -/
structure Rule where
  name : String
  productions : List String
deriving DecidableEq, Repr

/-- A grammar: rules for distinct names. -/
structure Grammar where
  rules : List Rule
  distinct : (rules.map Rule.name).Nodup

namespace Grammar

/-- The grammar without rules. -/
def empty : Grammar := ⟨[], List.nodup_nil⟩

/-- The names that have a rule. -/
def names (grammar : Grammar) : List String :=
  grammar.rules.map Rule.name

/-- The number of rules. -/
def size (grammar : Grammar) : Nat :=
  grammar.rules.length

/-- The productions that a grammar gives to a name. -/
def productions? (grammar : Grammar) (name : String) : Option (List String) :=
  (grammar.rules.find? fun rule => rule.name = name).map Rule.productions

/-- The grammar in which a rule takes the place of any earlier one for its name. -/
def add (grammar : Grammar) (rule : Rule) : Grammar where
  rules := (grammar.rules.filter fun earlier => earlier.name ≠ rule.name) ++ [rule]
  distinct := by
    rw [List.map_append, List.nodup_append]
    refine ⟨?_, by simp, ?_⟩
    · exact grammar.distinct.sublist (List.filter_sublist.map _)
    · intro name earlier other last
      simp only [List.mem_map, List.mem_filter] at earlier
      obtain ⟨kept, ⟨-, apart⟩, rfl⟩ := earlier
      simp_all

/-- Whether two grammars give the same productions to every name. -/
def agrees (left right : Grammar) : Bool :=
  left.size == right.size &&
    left.rules.all fun rule => right.productions? rule.name = some rule.productions

/-! ### What a grammar gives to a name -/

@[simp] theorem productions?_empty (name : String) : empty.productions? name = none := rfl

theorem productions?_add_self (grammar : Grammar) (rule : Rule) :
    (grammar.add rule).productions? rule.name = some rule.productions := by
  have replaced : (grammar.rules.filter fun earlier => earlier.name ≠ rule.name).find?
      (fun earlier => earlier.name = rule.name) = none := by
    rw [List.find?_eq_none]
    intro earlier member
    have apart := (List.mem_filter.mp member).2
    simpa using apart
  rw [productions?, add, List.find?_append, replaced]
  simp

theorem productions?_add_of_ne (grammar : Grammar) {rule : Rule} {name : String}
    (different : name ≠ rule.name) :
    (grammar.add rule).productions? name = grammar.productions? name := by
  have kept : (grammar.rules.filter fun earlier => earlier.name ≠ rule.name).find?
      (fun earlier => earlier.name = name) =
        grammar.rules.find? fun earlier => earlier.name = name := by
    rw [List.find?_filter]
    congr 1
    funext earlier
    by_cases same : earlier.name = name
    · simp [same, different]
    · simp [same]
  have last : ([rule].find? fun earlier => earlier.name = name) = none := by
    simp [Ne.symm different]
  rw [productions?, productions?, add, List.find?_append, kept, last, Option.or_none]

/-- A name has productions exactly when it is among the names with a rule. -/
theorem productions?_isSome (grammar : Grammar) (name : String) :
    (grammar.productions? name).isSome = true ↔ name ∈ grammar.names := by
  simp [productions?, names, List.find?_isSome]

end Grammar

end Golden
