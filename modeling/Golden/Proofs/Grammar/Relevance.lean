/-
This file says which rules an expansion can depend on. An expansion looks at the
productions of the symbol that was asked for, and from there at those of every character
that it comes to; what it never comes to, it never looks at. So two grammars that agree
on what one of them comes to expand the symbol alike, into the same text or with the
same report of the same cycle.

What is met need not have a rule, since a character without one stands for itself only
as long as it has none. Meeting is therefore wider than reaching along uses: a rule may
not be added for a character that is met, although nothing uses it so far.
-/

import Golden.Proofs.Grammar.Recursion

namespace Golden.Grammar

/-! ### What an expansion meets -/

/-- A name shows the characters of its productions, each as a symbol that may have a rule or
none. -/
def Shows (grammar : Grammar) (name symbol : String) : Prop :=
  ∃ character, grammar.Writes name character ∧ symbol = String.singleton character

/-- A symbol meets itself and whatever is shown by a name that it meets. -/
def Meets (grammar : Grammar) (symbol name : String) : Prop :=
  Relation.ReflTransGen grammar.Shows symbol name

variable {grammar : Grammar} {symbol : String}

theorem Shows.of_mem {name production : String} {productions : List String} {character : Char}
    (ruled : grammar.productions? name = some productions) (member : production ∈ productions)
    (written : character ∈ production.toList) :
    grammar.Shows name (String.singleton character) :=
  ⟨character, ⟨productions, ruled, production, member, written⟩, rfl⟩

/-- Symbols that show nothing but one another are all that any of them meets. -/
theorem Meets.mem_of_closed {symbols : List String} {name : String}
    (met : grammar.Meets symbol name) (first : symbol ∈ symbols)
    (closed : ∀ other ∈ symbols, (grammar.written other).map String.singleton ⊆ symbols) :
    name ∈ symbols := by
  induction met with
  | refl => exact first
  | tail _ shown inductionHypothesis =>
    obtain ⟨character, written, rfl⟩ := shown
    exact closed _ inductionHypothesis
      (List.mem_map_of_mem ((mem_written_iff _ _ _).mpr written))

/-- Apart from the symbol itself, only single characters are met. -/
theorem Meets.length_eq_one {name : String} (met : grammar.Meets symbol name)
    (other : name ≠ symbol) : name.length = 1 := by
  rcases met.cases_tail with same | ⟨before, -, character, -, rfl⟩
  · exact absurd same other
  · exact String.length_singleton

/-! ### Grammars that agree on what is met -/

/-- A grammar gives the same productions as another, or likewise no rule, to all that the symbol
meets in the other. -/
def AgreesOnMet (other grammar : Grammar) (symbol : String) : Prop :=
  ∀ name, grammar.Meets symbol name → other.productions? name = grammar.productions? name

/-- What agrees on all that a name meets agrees on all that is met from a symbol it shows. -/
theorem AgreesOnMet.of_shows {other : Grammar} {name : String}
    (agree : AgreesOnMet other grammar symbol) (shown : grammar.Shows symbol name) :
    AgreesOnMet other grammar name :=
  fun _ further => agree _ (.head shown further)

/-- Under any names that are being expanded, grammars that agree on what a symbol meets expand it
alike. -/
theorem expandUnder_of_agreesOnMet {other : Grammar} {active : List String}
    (agree : AgreesOnMet other grammar symbol) :
    other.expandUnder active symbol = grammar.expandUnder active symbol := by
  induction active, symbol using expandUnder.induct grammar with
  | case1 active symbol literal =>
    have literalToo := (agree symbol .refl).trans literal
    rw [expandUnder_of_no_rule literal, expandUnder_of_no_rule literalToo]
  | case2 active symbol productions ruled met =>
    have ruledToo := (agree symbol .refl).trans ruled
    rw [expandUnder_of_mem ruled met, expandUnder_of_mem ruledToo met]
  | case3 active symbol productions ruled fresh inductionHypothesis =>
    have ruledToo := (agree symbol .refl).trans ruled
    have alike : ∀ production ∈ productions,
        other.expandProduction (active ++ [symbol]) production =
          grammar.expandProduction (active ++ [symbol]) production := by
      intro production member
      unfold expandProduction
      rw [mapM_congr fun character written =>
        inductionHypothesis character (agree.of_shows (.of_mem ruled member written))]
    rw [expandUnder_of_rule ruled fresh, expandUnder_of_rule ruledToo fresh, mapM_congr alike]

/-! ### Rules that are not met -/

/-- The grammar without the rule for a name. -/
def without (grammar : Grammar) (name : String) : Grammar where
  rules := grammar.rules.filter fun rule => rule.name ≠ name
  distinct := grammar.distinct.sublist (List.filter_sublist.map _)

theorem productions?_without_of_ne (grammar : Grammar) {name removed : String}
    (different : name ≠ removed) :
    (grammar.without removed).productions? name = grammar.productions? name := by
  unfold productions? without
  rw [List.find?_filter]
  congr 2
  funext rule
  by_cases same : rule.name = name <;> simp [same, different]

/-- Adding or replacing the rule for a name that is not met keeps the agreement on what is met. -/
theorem agreesOnMet_add {rule : Rule} (unmet : ¬ grammar.Meets symbol rule.name) :
    AgreesOnMet (grammar.add rule) grammar symbol := by
  intro name met
  refine productions?_add_of_ne grammar ?_
  rintro rfl
  exact unmet met

/-- Removing the rule for a name that is not met keeps the agreement on what is met. -/
theorem agreesOnMet_without {removed : String} (unmet : ¬ grammar.Meets symbol removed) :
    AgreesOnMet (grammar.without removed) grammar symbol := by
  intro name met
  refine productions?_without_of_ne grammar ?_
  rintro rfl
  exact unmet met

/-- Rules that are not met do not matter. A grammar that gives the same productions, or likewise no
rule, to the symbol and to every character that is met from it expands the symbol alike: into the
same text, or with the same symbol and the same path in the report. So it makes no
difference to add, to replace or to remove a rule that is not met, whatever its productions are.
This holds of every rule whose name is neither the symbol nor a single character. -/
theorem unmet_rules_do_not_matter (grammar : Grammar) (symbol : String) :
    (∀ other : Grammar,
      (∀ name, grammar.Meets symbol name → other.productions? name = grammar.productions? name) →
        other.expand symbol = grammar.expand symbol) ∧
    (∀ rule, ¬ grammar.Meets symbol rule.name →
      (grammar.add rule).expand symbol = grammar.expand symbol) ∧
    (∀ name, ¬ grammar.Meets symbol name →
      (grammar.without name).expand symbol = grammar.expand symbol) ∧
    ∀ name, name ≠ symbol → name.length ≠ 1 → ¬ grammar.Meets symbol name := by
  refine ⟨fun other agree => ?_, fun rule unmet => ?_, fun name unmet => ?_, ?_⟩
  · exact expandUnder_of_agreesOnMet agree
  · exact expandUnder_of_agreesOnMet (agreesOnMet_add unmet)
  · exact expandUnder_of_agreesOnMet (agreesOnMet_without unmet)
  · exact fun name other long met => long (met.length_eq_one other)

/-- A grammar with a cycle, and with two rules that are not met from the cycle. -/
def cycleAside : Grammar :=
  empty.add ⟨"S", ["aA", "b"]⟩ |>.add ⟨"A", ["c", "UbS"]⟩ |>.add ⟨"V", ["S"]⟩
    |>.add ⟨"start", ["S"]⟩

/-- The same cycle is reported when a rule that is not met has been made recursive and another one
has been removed. The character without a rule on the cycle's way is met all the same. -/
theorem cycle_reported_beside_other_rules :
    let other := (cycleAside.add ⟨"V", ["VV", "A"]⟩).without "start"
    (∀ name, cycleAside.Meets "S" name →
      other.productions? name = cycleAside.productions? name) ∧
    cycleAside.Meets "S" "U" ∧
    other.expand "S" = cycleAside.expand "S" ∧
    cycleAside.expand "S" = .error ⟨"S", ["S", "A", "S"]⟩ := by
  intro other
  have alike : ∀ name ∈ ["S", "A", "U", "a", "b", "c"],
      other.productions? name = cycleAside.productions? name := by decide
  have agree : ∀ name, cycleAside.Meets "S" name →
      other.productions? name = cycleAside.productions? name :=
    fun name met => alike name (met.mem_of_closed (by decide) (by decide))
  have met : cycleAside.Meets "S" "U" :=
    .tail (.single ⟨'A', ⟨_, rfl, "aA", by decide, by decide⟩, rfl⟩)
      ⟨'U', ⟨_, rfl, "UbS", by decide, by decide⟩, rfl⟩
  exact ⟨agree, met, (unmet_rules_do_not_matter cycleAside "S").1 other agree, by decide +kernel⟩

end Golden.Grammar
