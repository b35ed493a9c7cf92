/-
This file says what the rules of a grammar are like when it was read from a
source: every one of them is what some line says, so what holds of the rules that
lines say holds of all rules. A line never says a rule without productions, nor a
production with a bar in it.
-/

import Golden.Grammar.Source
import Golden.Proofs.Grammar.Rules

namespace Golden.Grammar

open Golden.Text

/-! ### Rules come from lines -/

/-- What holds of the rules of a grammar, and of those that some more lines say, holds of all
rules once the lines are read. -/
theorem forall_rules_of_readLines {property : Rule → Prop} {grammar result : Grammar}
    {number offset : Nat} {lines : List (List Char)}
    (stated : ∀ chunk ∈ lines, ∀ rule,
      readLine (dropTrailing isTerminator chunk) = .rule rule → property rule)
    (earlier : ∀ rule ∈ grammar.rules, property rule)
    (read : readLines grammar number offset lines = .ok result) :
    ∀ rule ∈ result.rules, property rule := by
  induction lines generalizing grammar number offset with
  | nil =>
    cases read
    exact earlier
  | cons chunk rest inductionHypothesis =>
    have statedRest : ∀ other ∈ rest, ∀ rule,
        readLine (dropTrailing isTerminator other) = .rule rule → property rule :=
      fun other member => stated other (List.mem_cons_of_mem _ member)
    rw [readLines] at read
    cases reading : readLine (dropTrailing isTerminator chunk) with
    | blank =>
      rw [reading] at read
      exact inductionHypothesis statedRest earlier read
    | malformed =>
      rw [reading] at read
      cases read
    | rule rule =>
      rw [reading] at read
      refine inductionHypothesis statedRest ?_ read
      intro other member
      rcases (mem_rules_add grammar rule other).mp member with rfl | ⟨kept, -⟩
      · exact stated chunk List.mem_cons_self other reading
      · exact earlier other kept

/-- What holds of every rule that a line of a source says holds of every rule of its grammar. -/
theorem forall_rules_of_parse {property : Rule → Prop} {source : String} {grammar : Grammar}
    (stated : ∀ chunk ∈ chunks source.toList, ∀ rule,
      readLine (dropTrailing isTerminator chunk) = .rule rule → property rule)
    (parsed : parse source = .ok grammar) : ∀ rule ∈ grammar.rules, property rule :=
  forall_rules_of_readLines stated (by simp [empty]) parsed

/-! ### Productions of a line -/

/-- No piece of a list that was cut at a separator has the separator. -/
theorem not_mem_of_mem_splitOn {α : Type} [BEq α] [LawfulBEq α] {separator : α}
    {symbols piece : List α} (member : piece ∈ symbols.splitOn separator) :
    separator ∉ piece := by
  induction symbols generalizing piece with
  | nil =>
    rw [List.splitOn_nil, List.mem_singleton] at member
    simp [member]
  | cons symbol rest inductionHypothesis =>
    rw [List.splitOn_cons_eq_if_modifyHead] at member
    split at member
    · rcases List.mem_cons.mp member with rfl | later
      · simp
      · exact inductionHypothesis later
    · rename_i different
      cases cut : rest.splitOn separator with
      | nil => exact absurd cut (List.splitOn_ne_nil separator rest)
      | cons first others =>
        rw [cut, List.modifyHead_cons] at member
        rw [cut] at inductionHypothesis
        rcases List.mem_cons.mp member with rfl | later
        · have apart : separator ≠ symbol := fun equal => different (by simp [equal])
          exact List.not_mem_cons_of_ne_of_not_mem apart
            (inductionHypothesis List.mem_cons_self)
        · exact inductionHypothesis (List.mem_cons_of_mem _ later)

/-- The productions of a line are the pieces between its bars, the first of them always among
them. -/
theorem exists_productionsOf_eq (written : List Char) :
    ∃ first others, (bodyOf written).splitOn '|' = first :: others ∧
      productionsOf written = (first :: dropTrailing List.isEmpty others).map String.ofList := by
  cases cut : (bodyOf written).splitOn '|' with
  | nil => exact absurd cut (List.splitOn_ne_nil _ _)
  | cons first others =>
    refine ⟨first, others, rfl, ?_⟩
    unfold productionsOf
    rw [cut]

theorem productionsOf_ne_nil (written : List Char) : productionsOf written ≠ [] := by
  obtain ⟨first, others, -, equal⟩ := exists_productionsOf_eq written
  rw [equal]
  exact List.cons_ne_nil _ _

theorem exists_piece_of_mem_productionsOf {written : List Char} {production : String}
    (member : production ∈ productionsOf written) :
    ∃ piece ∈ (bodyOf written).splitOn '|', production = String.ofList piece := by
  obtain ⟨first, others, cut, equal⟩ := exists_productionsOf_eq written
  rw [equal] at member
  obtain ⟨piece, kept, rfl⟩ := List.mem_map.mp member
  refine ⟨piece, ?_, rfl⟩
  rw [cut]
  rcases List.mem_cons.mp kept with rfl | later
  · exact List.mem_cons_self
  · exact List.mem_cons_of_mem _ ((dropTrailing_isPrefix _ _).subset later)

theorem bar_not_mem_of_mem_productionsOf {written : List Char} {production : String}
    (member : production ∈ productionsOf written) : '|' ∉ production.toList := by
  obtain ⟨piece, listed, rfl⟩ := exists_piece_of_mem_productionsOf member
  rw [String.toList_ofList]
  exact not_mem_of_mem_splitOn listed

theorem productions_of_readLine {line : List Char} {rule : Rule}
    (reading : readLine line = .rule rule) :
    ∃ written, rule.productions = productionsOf written := by
  unfold readLine at reading
  split at reading
  · cases reading
  · split at reading
    · cases reading
      exact ⟨_, rfl⟩
    · cases reading

/-- A rule that a source states has a production, and no production has a bar. -/
theorem productions_of_parse {source : String} {grammar : Grammar}
    (parsed : parse source = .ok grammar) {name : String} {productions : List String}
    (ruled : grammar.productions? name = some productions) :
    productions ≠ [] ∧ ∀ production ∈ productions, '|' ∉ production.toList := by
  rw [productions?_eq_some_iff] at ruled
  have every : ∀ rule ∈ grammar.rules, rule.productions ≠ [] ∧
      ∀ production ∈ rule.productions, '|' ∉ production.toList := by
    refine forall_rules_of_parse ?_ parsed
    intro chunk _ rule reading
    obtain ⟨written, equal⟩ := productions_of_readLine reading
    rw [equal]
    exact ⟨productionsOf_ne_nil written, fun production => bar_not_mem_of_mem_productionsOf⟩
  exact every _ ruled

end Golden.Grammar
