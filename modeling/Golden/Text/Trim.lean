/-
This file says what may be cut from the ends of a list of symbols: a run of
unwanted symbols from the right, one given last symbol, or the blanks of a text
on either side. A character is blank when Unicode gives it the property
White_Space, twenty-five characters in all, so that a text is trimmed alike in
every script.
-/

namespace Golden.Text

/-! ### Cutting from the right -/

/-- A list without its longest run of unwanted symbols at the end. -/
def dropTrailing {α : Type} (unwanted : α → Bool) : List α → List α
  | [] => []
  | symbol :: rest =>
    match dropTrailing unwanted rest with
    | [] => if unwanted symbol then [] else [symbol]
    | kept => symbol :: kept

/-- A list without its last symbol when that symbol is the given one. -/
def dropFinal {α : Type} [DecidableEq α] (final : α) (symbols : List α) : List α :=
  if symbols.getLast? = some final then symbols.dropLast else symbols

/-- What remains is the front of the list. -/
theorem dropTrailing_isPrefix {α : Type} (unwanted : α → Bool) (symbols : List α) :
    dropTrailing unwanted symbols <+: symbols := by
  induction symbols with
  | nil => exact List.prefix_refl []
  | cons symbol rest inductionHypothesis =>
    unfold dropTrailing
    split
    · split
      · exact List.nil_prefix
      · exact ⟨rest, rfl⟩
    · exact (List.prefix_cons_inj symbol).mpr inductionHypothesis

theorem dropFinal_append_self {α : Type} [DecidableEq α] (final : α) (symbols : List α) :
    dropFinal final (symbols ++ [final]) = symbols := by
  simp [dropFinal]

theorem dropFinal_of_ne {α : Type} [DecidableEq α] {final : α} {symbols : List α}
    (different : symbols.getLast? ≠ some final) : dropFinal final symbols = symbols := by
  simp [dropFinal, different]

/-! ### Blanks -/

/-- The code points with the property White_Space, as closed intervals in ascending order. -/
def blankIntervals : List (Nat × Nat) :=
  [(0x09, 0x0D), (0x20, 0x20), (0x85, 0x85), (0xA0, 0xA0), (0x1680, 0x1680), (0x2000, 0x200A),
    (0x2028, 0x2029), (0x202F, 0x202F), (0x205F, 0x205F), (0x3000, 0x3000)]

/-- A character is blank when it lies in one of the blank intervals. -/
def isBlank (character : Char) : Bool :=
  blankIntervals.any fun (least, greatest) =>
    least ≤ character.toNat && character.toNat ≤ greatest

/-- A text without the blanks at its end. -/
def trimEnd (text : List Char) : List Char :=
  dropTrailing isBlank text

/-- A text without the blanks at either end. -/
def trim (text : List Char) : List Char :=
  trimEnd (text.dropWhile isBlank)

end Golden.Text
