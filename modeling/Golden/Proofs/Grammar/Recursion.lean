/-
This file says when a symbol has an expansion and what the expansion is. A name
uses a symbol when one of its productions has the symbol as a character and the
symbol has a rule of its own. A symbol has an expansion exactly when nothing that
can be reached along uses can be reached from itself.

Expanding keeps the names that are being expanded, but they only ever forbid: an
expansion that succeeds under some names succeeds in the same way under fewer.
So every character of a production stands for what it expands to alone, however
deep it is met, and a rule that is met on two ways is not taken for a recursion.
-/

import Golden.Grammar.Expansion
import Golden.Proofs.Grammar.Rules
import Golden.Proofs.Traversal
import Mathlib.Data.List.Basic
import Mathlib.Logic.Relation
import Mathlib.Tactic.Choose

namespace Golden.Grammar

/-! ### Uses -/

/-- A character is written in the productions of a name. -/
def Writes (grammar : Grammar) (name : String) (character : Char) : Prop :=
  ∃ productions, grammar.productions? name = some productions ∧
    ∃ production ∈ productions, character ∈ production.toList

/-- A name uses a symbol of one character when the symbol is written in its productions and has a
rule. -/
def Uses (grammar : Grammar) (name symbol : String) : Prop :=
  symbol ∈ grammar.names ∧
    ∃ character, grammar.Writes name character ∧ symbol = String.singleton character

/-- A symbol is reached from a name in any number of uses. -/
def Reaches (grammar : Grammar) (name symbol : String) : Prop :=
  Relation.ReflTransGen grammar.Uses name symbol

/-- A symbol is recursive when it is reached from itself in one use or more. -/
def Recursive (grammar : Grammar) (symbol : String) : Prop :=
  Relation.TransGen grammar.Uses symbol symbol

/-- The characters of the productions of a name, one production after the other. -/
def written (grammar : Grammar) (name : String) : List Char :=
  ((grammar.productions? name).getD []).flatMap String.toList

variable {grammar : Grammar} {active : List String} {symbol : String}

theorem mem_written_iff (grammar : Grammar) (name : String) (character : Char) :
    character ∈ grammar.written name ↔ grammar.Writes name character := by
  unfold written Writes
  cases grammar.productions? name <;> simp

/-- A name that uses anything has a rule. -/
theorem Uses.mem_names {name other : String} (use : grammar.Uses name other) :
    name ∈ grammar.names := by
  obtain ⟨-, character, ⟨productions, ruled, -⟩, -⟩ := use
  exact mem_names_of_productions? ruled

/-- Only the symbol itself is reached from a symbol without a rule. -/
theorem Reaches.eq_of_no_rule {reached : String} (way : grammar.Reaches symbol reached)
    (literal : symbol ∉ grammar.names) : reached = symbol := by
  rcases way.cases_head with equal | ⟨other, use, -⟩
  · exact equal.symm
  · exact absurd use.mem_names literal

/-- A symbol that is written in a production is used when a name with a rule is reached from it. -/
theorem Writes.uses {name reached : String} {character : Char}
    (written : grammar.Writes name character)
    (way : grammar.Reaches (String.singleton character) reached)
    (ruled : reached ∈ grammar.names) : grammar.Uses name (String.singleton character) := by
  refine ⟨?_, character, written, rfl⟩
  by_contra unruled
  rw [way.eq_of_no_rule unruled] at ruled
  exact unruled ruled

/-- What is reached in one use or more is reached from a symbol that is written in a production. -/
theorem exists_written_of_transGen {name reached : String}
    (way : Relation.TransGen grammar.Uses name reached) :
    ∃ character, grammar.Writes name character ∧
      grammar.Reaches (String.singleton character) reached := by
  obtain ⟨other, ⟨-, character, written, rfl⟩, rest⟩ := Relation.TransGen.head'_iff.mp way
  exact ⟨character, written, rest⟩

/-! ### Expansions under names -/

/-- Productions between parentheses with every character replaced. -/
def enclose (replace : Char → String) (productions : List String) : String :=
  "(" ++ "|".intercalate
    (productions.map fun production => String.join (production.toList.map replace)) ++ ")"

/-- The expansion of a production while the active names are being expanded. -/
def expandProduction (grammar : Grammar) (active : List String) (production : String) :
    Except Cycle String := do
  let parts ← production.toList.mapM fun character =>
    grammar.expandUnder active (String.singleton character)
  return String.join parts

theorem expandUnder_of_no_rule (literal : grammar.productions? symbol = none) :
    grammar.expandUnder active symbol = .ok symbol := by
  rw [expandUnder]
  split
  · rfl
  · simp_all

/-- A symbol that cannot be expanded has a rule. -/
theorem mem_names_of_expandUnder_eq_error {cycle : Cycle}
    (failed : grammar.expandUnder active symbol = .error cycle) : symbol ∈ grammar.names := by
  by_contra unruled
  rw [expandUnder_of_no_rule ((productions?_eq_none_iff grammar symbol).mpr unruled)] at failed
  cases failed

theorem expandUnder_of_mem {productions : List String}
    (ruled : grammar.productions? symbol = some productions) (met : symbol ∈ active) :
    grammar.expandUnder active symbol = .error ⟨symbol, active ++ [symbol]⟩ := by
  rw [expandUnder]
  split
  · simp_all
  · rw [dif_pos met]

theorem expandUnder_of_rule {productions : List String}
    (ruled : grammar.productions? symbol = some productions) (fresh : symbol ∉ active) :
    grammar.expandUnder active symbol = do
      let alternatives ← productions.mapM (grammar.expandProduction (active ++ [symbol]))
      return "(" ++ "|".intercalate alternatives ++ ")" := by
  rw [expandUnder]
  split
  · simp_all
  · rename_i found same
    obtain rfl : found = productions := Option.some_inj.mp (same.symm.trans ruled)
    rw [dif_neg fresh]
    rfl

/-- A production whose characters all have expansions has the expansion that they make. -/
theorem expandProduction_of_forall {production : String} (replace : Char → String)
    (each : ∀ character ∈ production.toList,
      grammar.expandUnder active (String.singleton character) = .ok (replace character)) :
    grammar.expandProduction active production =
      .ok (String.join (production.toList.map replace)) := by
  rw [expandProduction, mapM_of_forall_ok replace each]
  rfl

/-- The characters of a production that has an expansion have one. -/
theorem exists_ok_of_expandProduction {production expansion : String}
    (expanded : grammar.expandProduction active production = .ok expansion) {character : Char}
    (member : character ∈ production.toList) :
    ∃ part, grammar.expandUnder active (String.singleton character) = .ok part := by
  rw [expandProduction] at expanded
  cases parts : production.toList.mapM fun character =>
      grammar.expandUnder active (String.singleton character) with
  | error cycle =>
    rw [parts] at expanded
    cases expanded
  | ok values =>
    obtain ⟨part, -, found⟩ := exists_ok_of_mapM_eq_ok parts member
    exact ⟨part, found⟩

/-- A rule whose name is not being expanded has an expansion exactly when every character of its
productions has one, and then the characters are replaced by their expansions. -/
theorem expandUnder_eq_ok_iff {productions : List String}
    (ruled : grammar.productions? symbol = some productions) (fresh : symbol ∉ active)
    (expansion : String) :
    grammar.expandUnder active symbol = .ok expansion ↔
      ∃ replace : Char → String,
        (∀ character, grammar.Writes symbol character →
          grammar.expandUnder (active ++ [symbol]) (String.singleton character) =
            .ok (replace character)) ∧
        expansion = enclose replace productions := by
  have spelled : ∀ replace : Char → String,
      (∀ character, grammar.Writes symbol character →
        grammar.expandUnder (active ++ [symbol]) (String.singleton character) =
          .ok (replace character)) →
      grammar.expandUnder active symbol = .ok (enclose replace productions) := by
    intro replace each
    rw [expandUnder_of_rule ruled fresh, mapM_of_forall_ok
      (fun production => String.join (production.toList.map replace)) ?_]
    · rfl
    · intro production member
      exact expandProduction_of_forall replace fun character written =>
        each character ⟨productions, ruled, production, member, written⟩
  constructor
  · intro expanded
    have each : ∀ character, grammar.Writes symbol character → ∃ part,
        grammar.expandUnder (active ++ [symbol]) (String.singleton character) = .ok part := by
      rintro character ⟨found, same, production, member, written⟩
      obtain rfl : found = productions := Option.some_inj.mp (same.symm.trans ruled)
      rw [expandUnder_of_rule ruled fresh] at expanded
      cases alternatives : found.mapM (grammar.expandProduction (active ++ [symbol])) with
      | error cycle =>
        rw [alternatives] at expanded
        cases expanded
      | ok values =>
        obtain ⟨value, -, succeeded⟩ := exists_ok_of_mapM_eq_ok alternatives member
        exact exists_ok_of_expandProduction succeeded written
    choose! replace replaced using each
    refine ⟨replace, replaced, ?_⟩
    exact Except.ok.inj (expanded.symm.trans (spelled replace replaced))
  · rintro ⟨replace, each, rfl⟩
    exact spelled replace each

/-- A rule whose name is not being expanded fails where the first character of its productions
that fails does. -/
theorem expandUnder_eq_error_iff {productions : List String}
    (ruled : grammar.productions? symbol = some productions) (fresh : symbol ∉ active)
    (cycle : Cycle) :
    grammar.expandUnder active symbol = .error cycle ↔
      ∃ before character after, grammar.written symbol = before ++ character :: after ∧
        (∀ earlier ∈ before, ∃ part,
          grammar.expandUnder (active ++ [symbol]) (String.singleton earlier) = .ok part) ∧
        grammar.expandUnder (active ++ [symbol]) (String.singleton character) = .error cycle := by
  have flat : grammar.written symbol = productions.flatMap String.toList := by
    rw [written, ruled, Option.getD_some]
  have parts : grammar.expandProduction (active ++ [symbol]) = fun production =>
      String.join <$> production.toList.mapM fun character =>
        grammar.expandUnder (active ++ [symbol]) (String.singleton character) :=
    funext fun production => bind_pure_comp _ _
  rw [expandUnder_of_rule ruled fresh, bind_pure_comp]
  refine (map_eq_error_iff _ _ cycle).trans ?_
  rw [parts, mapM_mapM_eq_error_iff, ← flat]
  exact mapM_eq_error_iff _ _ _

/-- A rule whose name is not being expanded fails where a character of its productions does. -/
theorem exists_written_of_expandUnder_eq_error {productions : List String}
    (ruled : grammar.productions? symbol = some productions) (fresh : symbol ∉ active)
    {cycle : Cycle} (failed : grammar.expandUnder active symbol = .error cycle) :
    ∃ character, grammar.Writes symbol character ∧
      grammar.expandUnder (active ++ [symbol]) (String.singleton character) = .error cycle := by
  obtain ⟨before, character, after, split, -, met⟩ :=
    (expandUnder_eq_error_iff ruled fresh cycle).mp failed
  refine ⟨character, (mem_written_iff grammar symbol character).mp ?_, met⟩
  rw [split]
  exact List.mem_append_right before List.mem_cons_self

/-! ### The names that are being expanded -/

/-- An expansion that succeeds while some names are being expanded succeeds in the same way while
only some of them are. -/
theorem expandUnder_of_subset {fewer : List String} {expansion : String}
    (expanded : grammar.expandUnder active symbol = .ok expansion) (subset : fewer ⊆ active) :
    grammar.expandUnder fewer symbol = .ok expansion := by
  induction active, symbol using expandUnder.induct grammar generalizing fewer expansion with
  | case1 active symbol literal =>
    rw [expandUnder_of_no_rule literal] at expanded ⊢
    exact expanded
  | case2 active symbol productions ruled met =>
    rw [expandUnder_of_mem ruled met] at expanded
    cases expanded
  | case3 active symbol productions ruled fresh inductionHypothesis =>
    obtain ⟨replace, each, rfl⟩ := (expandUnder_eq_ok_iff ruled fresh expansion).mp expanded
    have absent : symbol ∉ fewer := fun met => fresh (subset met)
    refine (expandUnder_eq_ok_iff ruled absent _).mpr ⟨replace, ?_, rfl⟩
    intro character written
    refine inductionHypothesis character (each character written) ?_
    exact List.append_subset.mpr ⟨List.subset_append_of_subset_left _ subset,
      List.subset_append_right _ _⟩

/-- A symbol has an expansion exactly when no name that is reached from it is being expanded or is
recursive. -/
theorem exists_expandUnder_iff (grammar : Grammar) (active : List String) (symbol : String) :
    (∃ expansion, grammar.expandUnder active symbol = .ok expansion) ↔
      ∀ reached ∈ grammar.names, grammar.Reaches symbol reached →
        reached ∉ active ∧ ¬ grammar.Recursive reached := by
  induction active, symbol using expandUnder.induct grammar with
  | case1 active symbol literal =>
    have unruled := (productions?_eq_none_iff grammar symbol).mp literal
    refine iff_of_true ⟨symbol, expandUnder_of_no_rule literal⟩ ?_
    intro reached ruled way
    rw [way.eq_of_no_rule unruled] at ruled
    exact absurd ruled unruled
  | case2 active symbol productions ruled met =>
    refine iff_of_false ?_ ?_
    · rintro ⟨expansion, expanded⟩
      rw [expandUnder_of_mem ruled met] at expanded
      cases expanded
    · intro free
      exact (free symbol (mem_names_of_productions? ruled) .refl).1 met
  | case3 active symbol productions ruled fresh inductionHypothesis =>
    constructor
    · rintro ⟨expansion, expanded⟩
      obtain ⟨replace, each, -⟩ := (expandUnder_eq_ok_iff ruled fresh expansion).mp expanded
      have below : ∀ character, grammar.Writes symbol character → ∀ reached ∈ grammar.names,
          grammar.Reaches (String.singleton character) reached →
            reached ∉ active ++ [symbol] ∧ ¬ grammar.Recursive reached :=
        fun character written =>
          (inductionHypothesis character).mp ⟨replace character, each character written⟩
      intro reached reachedRuled way
      rcases Relation.reflTransGen_iff_eq_or_transGen.mp way with rfl | further
      · refine ⟨fresh, fun recursive => ?_⟩
        obtain ⟨character, written, rest⟩ := exists_written_of_transGen recursive
        have apart := (below character written _ reachedRuled rest).1
        simp at apart
      · obtain ⟨character, written, rest⟩ := exists_written_of_transGen further
        obtain ⟨apart, straight⟩ := below character written reached reachedRuled rest
        exact ⟨fun met => apart (List.mem_append_left _ met), straight⟩
    · intro free
      have each : ∀ character, grammar.Writes symbol character → ∃ part,
          grammar.expandUnder (active ++ [symbol]) (String.singleton character) = .ok part := by
        intro character written
        refine (inductionHypothesis character).mpr fun reached reachedRuled rest => ?_
        have use := written.uses rest reachedRuled
        obtain ⟨apart, straight⟩ := free reached reachedRuled (rest.head use)
        refine ⟨?_, straight⟩
        rw [List.mem_append, List.mem_singleton]
        rintro (met | rfl)
        · exact apart met
        · exact straight (Relation.TransGen.head' use rest)
      choose! replace replaced using each
      exact ⟨_, (expandUnder_eq_ok_iff ruled fresh _).mpr ⟨replace, replaced, rfl⟩⟩

/-- A symbol that cannot be expanded reaches the name that is reported, which is being expanded or
is recursive. -/
theorem reaches_of_expandUnder_eq_error {cycle : Cycle}
    (failed : grammar.expandUnder active symbol = .error cycle) :
    grammar.Reaches symbol cycle.symbol ∧
      (cycle.symbol ∈ active ∨ grammar.Recursive cycle.symbol) := by
  induction active, symbol using expandUnder.induct grammar with
  | case1 active symbol literal =>
    rw [expandUnder_of_no_rule literal] at failed
    cases failed
  | case2 active symbol productions ruled met =>
    rw [expandUnder_of_mem ruled met] at failed
    cases failed
    exact ⟨.refl, .inl met⟩
  | case3 active symbol productions ruled fresh inductionHypothesis =>
    obtain ⟨character, written, below⟩ :=
      exists_written_of_expandUnder_eq_error ruled fresh failed
    have use : grammar.Uses symbol (String.singleton character) :=
      ⟨mem_names_of_expandUnder_eq_error below, character, written, rfl⟩
    obtain ⟨way, met | recursive⟩ := inductionHypothesis character below
    · refine ⟨way.head use, ?_⟩
      rcases List.mem_append.mp met with earlier | last
      · exact .inl earlier
      · rw [List.mem_singleton] at last
        rw [last] at way ⊢
        exact .inr (Relation.TransGen.head' use way)
    · exact ⟨way.head use, .inr recursive⟩

/-! ### Expansions -/

/-- The context-free value of a symbol: a symbol without a rule stands for itself, and a rule for
its productions with every character replaced by what it expands to alone. -/
def IsValue (grammar : Grammar) (symbol expansion : String) : Prop :=
  match grammar.productions? symbol with
  | none => expansion = symbol
  | some productions =>
    ∃ alone : Char → String,
      (∀ production ∈ productions, ∀ character ∈ production.toList,
        grammar.expand (String.singleton character) = .ok (alone character)) ∧
      expansion = "(" ++ "|".intercalate
        (productions.map fun production => String.join (production.toList.map alone)) ++ ")"

theorem isValue_of_expand {expansion : String}
    (expanded : grammar.expand symbol = .ok expansion) : grammar.IsValue symbol expansion := by
  unfold IsValue
  split
  · rename_i literal
    rw [expand, expandUnder_of_no_rule literal] at expanded
    exact (Except.ok.inj expanded).symm
  · rename_i productions ruled
    obtain ⟨replace, each, rfl⟩ :=
      (expandUnder_eq_ok_iff ruled List.not_mem_nil expansion).mp expanded
    refine ⟨replace, fun production member character written => ?_, rfl⟩
    exact expandUnder_of_subset
      (each character ⟨productions, ruled, production, member, written⟩) (List.nil_subset _)

/-- A symbol has an expansion exactly when nothing that it reaches is recursive. Its expansion is
then its context-free value; else a recursive symbol that it reaches is reported. -/
theorem expand_eq_value_iff_not_recursive (grammar : Grammar) (symbol : String) :
    ((∃ expansion, grammar.expand symbol = .ok expansion) ↔
      ∀ reached, grammar.Reaches symbol reached → ¬ grammar.Recursive reached) ∧
    (∀ expansion, grammar.expand symbol = .ok expansion → grammar.IsValue symbol expansion) ∧
    ∀ cycle, grammar.expand symbol = .error cycle →
      grammar.Reaches symbol cycle.symbol ∧ grammar.Recursive cycle.symbol := by
  refine ⟨?_, fun expansion => isValue_of_expand, fun cycle failed => ?_⟩
  · rw [show (∃ expansion, grammar.expand symbol = .ok expansion) ↔ _ from
      exists_expandUnder_iff grammar [] symbol]
    constructor
    · intro free reached way recursive
      obtain ⟨other, use, -⟩ := Relation.TransGen.head'_iff.mp recursive
      exact (free reached use.mem_names way).2 recursive
    · intro straight reached _ way
      exact ⟨List.not_mem_nil, straight reached way⟩
  · obtain ⟨way, met | recursive⟩ := reaches_of_expandUnder_eq_error failed
    · cases met
    · exact ⟨way, recursive⟩

/-- A rule that is met on two ways is expanded twice, and is no recursion. -/
theorem expand_rule_met_twice :
    let grammar := (empty.add ⟨"S", ["AB", ""]⟩).add ⟨"A", ["x", "y"]⟩ |>.add ⟨"B", ["A"]⟩
    grammar.expand "S" = .ok "((x|y)((x|y))|)" ∧ grammar.IsValue "S" "((x|y)((x|y))|)" ∧
      ∀ reached, grammar.Reaches "S" reached → ¬ grammar.Recursive reached := by
  intro grammar
  have expanded : grammar.expand "S" = .ok "((x|y)((x|y))|)" := by decide +kernel
  have spec := expand_eq_value_iff_not_recursive grammar "S"
  exact ⟨expanded, spec.2.1 _ expanded, spec.1.mp ⟨_, expanded⟩⟩

end Golden.Grammar
