/-
This file expands the symbols of a grammar. A symbol with a rule becomes its
productions between parentheses, separated by bars, with every character of every
production expanded in turn; a symbol without a rule stands for itself. A symbol
that is met again while it is being expanded has no expansion, and the way back
to it is reported. The expansion ends because the names being expanded are
distinct and all have rules, so there is always one rule fewer to come.
-/

import Golden.Grammar.Basic

namespace Golden.Grammar

/-- A symbol whose expansion needs itself, and the names on the way from the symbol that was asked
for to its second occurrence. -/
structure Cycle where
  symbol : String
  path : List String
deriving DecidableEq, Repr

/-- The names with a rule that are not being expanded. -/
def idle (grammar : Grammar) (active : List String) : List String :=
  grammar.names.filter (· ∉ active)

/-- Expanding one more name leaves fewer names idle. -/
theorem idle_append_lt {grammar : Grammar} {active : List String} {symbol : String}
    (ruled : symbol ∈ grammar.names) (fresh : symbol ∉ active) :
    (grammar.idle (active ++ [symbol])).length < (grammar.idle active).length := by
  have smaller : grammar.idle (active ++ [symbol]) =
      (grammar.idle active).filter (· ≠ symbol) := by
    rw [idle, idle, List.filter_filter]
    congr 1
    funext name
    by_cases member : name ∈ active <;> simp [member]
  rw [smaller]
  apply List.length_filter_lt_length_iff_exists.mpr
  exact ⟨symbol, List.mem_filter.mpr ⟨ruled, by simpa using fresh⟩, by simp⟩

/-- The expansion of a symbol while the active names are being expanded, the name that was asked
for first. -/
def expandUnder (grammar : Grammar) (active : List String) (symbol : String) :
    Except Cycle String :=
  match _ : grammar.productions? symbol with
  | none => .ok symbol
  | some productions =>
    if _ : symbol ∈ active then .error ⟨symbol, active ++ [symbol]⟩
    else do
      let alternatives ← productions.mapM fun production => do
        let parts ← production.toList.mapM fun character =>
          expandUnder grammar (active ++ [symbol]) (String.singleton character)
        return String.join parts
      return "(" ++ "|".intercalate alternatives ++ ")"
termination_by (grammar.idle active).length
decreasing_by
  refine idle_append_lt ?_ ‹symbol ∉ active›
  rw [← productions?_isSome, ‹grammar.productions? symbol = some productions›]
  rfl

/-- The expansion of a symbol. -/
def expand (grammar : Grammar) (symbol : String) : Except Cycle String :=
  grammar.expandUnder [] symbol

end Golden.Grammar
