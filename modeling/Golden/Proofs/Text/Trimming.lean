/-
This file says what trimming leaves. What is cut from the right of a list is its
longest run of unwanted symbols there, so cutting once more cuts nothing, and
nothing is left exactly when every symbol is unwanted. A trimmed text is a part of
the text, without a blank at either end.
-/

import Golden.Text.Trim
import Mathlib.Data.List.DropRight

namespace Golden.Text

variable {α : Type}

/-! ### Cutting from the right -/

theorem dropTrailing_eq_rdropWhile (unwanted : α → Bool) (symbols : List α) :
    dropTrailing unwanted symbols = symbols.rdropWhile unwanted := by
  induction symbols with
  | nil => rfl
  | cons symbol rest inductionHypothesis =>
    rw [dropTrailing, inductionHypothesis, List.rdropWhile, List.rdropWhile, List.reverse_cons,
      List.dropWhile_append]
    cases kept : rest.reverse.dropWhile unwanted with
    | nil => by_cases drops : unwanted symbol = true <;> simp [drops]
    | cons last others => simp

/-! ### Trimming -/

/-- A trimmed text is a part of the text. -/
theorem trim_isInfix (text : List Char) : trim text <:+: text :=
  (dropTrailing_isPrefix _ _).isInfix.trans (List.dropWhile_suffix _).isInfix

/-- Nothing is left of a text exactly when it is blank. -/
theorem trim_eq_nil_iff (text : List Char) :
    trim text = [] ↔ ∀ character ∈ text, isBlank character = true := by
  rw [trim, trimEnd, dropTrailing_eq_rdropWhile, List.rdropWhile_eq_nil_iff]
  constructor
  · intro blank
    by_cases nothing : text.dropWhile isBlank = []
    · exact List.dropWhile_eq_nil_iff.mp nothing
    · -- What is left after the blanks at the start would begin with a character that is not blank.
      have first := List.head_dropWhile_not isBlank nothing
      rw [blank _ (List.head_mem nothing)] at first
      cases first
  · exact fun blank character member => blank character ((List.dropWhile_suffix _).subset member)

/-- A trimmed text does not start with a blank. -/
theorem dropWhile_isBlank_trim (text : List Char) : (trim text).dropWhile isBlank = trim text := by
  rw [List.dropWhile_eq_self_iff]
  intro nonempty
  have front : trim text <+: text.dropWhile isBlank := dropTrailing_isPrefix _ _
  have first := List.dropWhile_get_zero_not isBlank text
    (lt_of_lt_of_le nonempty front.length_le)
  rwa [List.IsPrefix.getElem front nonempty]

/-- A text that is trimmed once more stays as it is. -/
theorem trim_trim (text : List Char) : trim (trim text) = trim text := by
  rw [trim, dropWhile_isBlank_trim]
  rw [trim, trimEnd, trimEnd, dropTrailing_eq_rdropWhile, dropTrailing_eq_rdropWhile,
    List.rdropWhile_idempotent]

end Golden.Text
