/-
This file looks for one list of symbols within another, as consecutive symbols.
-/

namespace Golden.Text

variable {α : Type} [DecidableEq α]

/-- Whether a list of symbols occurs within another. -/
def occursIn (part : List α) : List α → Bool
  | [] => part.isEmpty
  | symbol :: rest => part.isPrefixOf (symbol :: rest) || occursIn part rest

/-- A list occurs within another exactly when the other is it with something on either side. -/
theorem occursIn_iff (part whole : List α) :
    occursIn part whole = true ↔ ∃ left right, whole = left ++ part ++ right := by
  induction whole with
  | nil =>
    rw [occursIn, List.isEmpty_iff]
    constructor
    · rintro rfl
      exact ⟨[], [], rfl⟩
    · rintro ⟨left, right, equation⟩
      simp_all
  | cons symbol rest inductionHypothesis =>
    rw [occursIn, Bool.or_eq_true, List.isPrefixOf_iff_prefix, inductionHypothesis]
    constructor
    · rintro (⟨right, equation⟩ | ⟨left, right, equation⟩)
      · exact ⟨[], right, equation.symm⟩
      · exact ⟨symbol :: left, right, congrArg (symbol :: ·) equation⟩
    · rintro ⟨left, right, equation⟩
      cases left with
      | nil => exact Or.inl ⟨right, equation.symm⟩
      | cons first left =>
        refine Or.inr ⟨left, right, ?_⟩
        exact (List.cons.inj equation).2

end Golden.Text
