/-
This file reads what texts are made of when they are written for readers: the digits of
a number, up to the character behind them, and lines each of which is closed by a line
feed. What was written of numbers and of lines reads back as it was.
-/

import Golden.Proofs.Text.Lines

namespace Golden.Text

/-! ### Parts of a line -/

theorem isPrefixOf?_append (front rest : List Char) :
    front.isPrefixOf? (front ++ rest) = some rest :=
  List.isPrefixOf?_eq_some_iff_append_eq.mpr rfl

/-- The number that a text starts with, and the text after it. -/
def readNumber? (text : List Char) : Option (Nat × List Char) :=
  let digits := text.takeWhile Char.isDigit
  if digits = [] then none
  else some (Nat.ofDigitChars 10 digits 0, text.dropWhile Char.isDigit)

theorem readNumber?_append (number : Nat) {next : Char} (ends : next.isDigit = false)
    (rest : List Char) :
    readNumber? ((toString number).toList ++ next :: rest) = some (number, next :: rest) := by
  have written : (toString number).toList = Nat.toDigits 10 number := Nat.toList_repr
  have digits : ∀ character ∈ Nat.toDigits 10 number, character.isDigit = true :=
    fun _ => Nat.isDigit_of_mem_toDigits (by decide) (by decide)
  have stops : ¬ next.isDigit = true := by simp [ends]
  rw [readNumber?, written, List.takeWhile_append_of_pos digits,
    List.takeWhile_cons_of_neg stops, List.append_nil, List.dropWhile_append_of_pos digits,
    List.dropWhile_cons_of_neg stops, if_neg Nat.toDigits_ne_nil,
    Nat.ofDigitChars_toDigits (by decide) (by decide)]

theorem lineFeed_not_mem_toString (number : Nat) : '\n' ∉ (toString number).toList := by
  intro member
  have written : (toString number).toList = Nat.toDigits 10 number := Nat.toList_repr
  have isDigit := Nat.isDigit_of_mem_toDigits (by decide) (by decide) (written ▸ member)
  exact absurd isDigit (by decide)

/-! ### Closed lines -/

/-- The lines of a text in which every line is closed by a line feed. -/
def closedLines? (text : List Char) : Option (List (List Char)) :=
  let pieces := text.splitOn '\n'
  if pieces.getLast? = some [] then some pieces.dropLast else none

theorem closedLines?_flatMap {lines : List (List Char)} (clean : ∀ line ∈ lines, '\n' ∉ line) :
    closedLines? (lines.flatMap fun line => line ++ ['\n']) = some lines := by
  rw [closedLines?, splitOn_flatMap_append clean]
  simp

end Golden.Text
