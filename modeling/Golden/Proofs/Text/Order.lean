/-
This file proves that texts in ascending order are in ascending order byte by byte. A
character is encoded as a first byte and the last digits of its number to the base 64, one
byte for each. The more digits there are, the greater is the first byte; and with as many
digits the first byte holds what stands before them. So the encodings of two characters
differ at the first place where their numbers do, and neither begins the other.
-/

import Mathlib.Algebra.Group.Nat.Defs
import Mathlib.Data.List.Lex
import Golden.Proofs.Text.Lines

namespace Golden.Text

/-! ### The encoding of a character as digits -/

/-- The last digits of a number to the base 64, each as a byte that may follow a first byte. -/
def digitBytes (value : Nat) : Nat → List UInt8
  | 0 => []
  | count + 1 => UInt8.ofNat (value / 64 ^ count % 64 + 0x80) :: digitBytes value count

/-- The number of bytes that follow the first one. -/
def tailLength (value : Nat) : Nat :=
  if value ≤ 0x7F then 0 else if value ≤ 0x7FF then 1 else if value ≤ 0xFFFF then 2 else 3

/-- What the first byte of an encoding is, besides the digits that do not follow. -/
def leadOffset : Nat → Nat
  | 0 => 0
  | 1 => 0xC0
  | 2 => 0xE0
  | _ => 0xF0

/-- The first byte of an encoding. -/
def leadByte (value : Nat) : Nat :=
  value / 64 ^ tailLength value + leadOffset (tailLength value)

theorem toNat_lt (character : Char) : character.toNat < 0x110000 := by
  rcases character.valid with low | ⟨-, high⟩
  · exact low.trans (by decide)
  · exact high

/-- A character is encoded as a first byte and the digits that follow it. -/
theorem utf8EncodeChar_eq (character : Char) :
    String.utf8EncodeChar character =
      UInt8.ofNat (leadByte character.toNat) ::
        digitBytes character.toNat (tailLength character.toNat) := by
  have bound := toNat_lt character
  unfold String.utf8EncodeChar leadByte tailLength
  rw [show character.val.toNat = character.toNat from rfl]
  generalize character.toNat = value at bound ⊢
  dsimp only
  split_ifs with one two three
  · rw [Nat.pow_zero, Nat.div_one]
    rfl
  · rw [Nat.mod_eq_of_lt (show value / 64 < 32 by omega)]
    simp [leadOffset, digitBytes]
  · rw [Nat.mod_eq_of_lt (show value / 4096 < 16 by omega)]
    simp [leadOffset, digitBytes]
  · rw [Nat.mod_eq_of_lt (show value / 262144 < 8 by omega)]
    simp [leadOffset, digitBytes]

/-! ### The order of encodings -/

/-- Lists of bytes are in order when their first bytes are, or these are the same and the rest is in
order. -/
theorem ofNat_cons_lt {number other : Nat} {rest others : List UInt8} (bound : other < 256)
    (below : number < other ∨ number = other ∧ rest < others) :
    UInt8.ofNat number :: rest < UInt8.ofNat other :: others := by
  rw [List.cons_lt_cons_iff]
  rcases below with less | ⟨rfl, later⟩
  · rw [UInt8.lt_iff_toNat_lt, UInt8.toNat_ofNat', UInt8.toNat_ofNat', Nat.mod_eq_of_lt bound,
      Nat.mod_eq_of_lt (less.trans bound)]
    exact .inl less
  · exact .inr ⟨rfl, later⟩

/-- Numbers that begin with the same digits are in the order of the digits that follow. -/
theorem digitBytes_append_lt {value other count : Nat} (below : value < other)
    (same : value / 64 ^ count = other / 64 ^ count) (rest others : List UInt8) :
    digitBytes value count ++ rest < digitBytes other count ++ others := by
  induction count with
  | zero =>
    rw [Nat.pow_zero, Nat.div_one, Nat.div_one] at same
    exact absurd same (Nat.ne_of_lt below)
  | succ count inductionHypothesis =>
    rw [Nat.pow_succ, ← Nat.div_div_eq_div_mul, ← Nat.div_div_eq_div_mul] at same
    have ordered : value / 64 ^ count ≤ other / 64 ^ count := Nat.div_le_div_right below.le
    rw [digitBytes, digitBytes, List.cons_append, List.cons_append]
    refine ofNat_cons_lt (by omega) ?_
    by_cases equal : value / 64 ^ count = other / 64 ^ count
    · exact .inr ⟨by rw [equal], inductionHypothesis equal⟩
    · exact .inl (by omega)

/-- A greater number has a greater first byte, or the same first byte and as many digits behind
it. -/
theorem leadByte_lt_or_eq {value other : Nat} (below : value < other) (bound : other < 0x110000) :
    leadByte other < 256 ∧
      (leadByte value < leadByte other ∨
        leadByte value = leadByte other ∧ tailLength value = tailLength other) := by
  unfold leadByte tailLength
  split_ifs <;> simp only [leadOffset, and_true] <;> omega

/-- The encodings of characters are in the order of the characters, whatever stands behind them. -/
theorem utf8EncodeChar_append_lt {character other : Char} (below : character < other)
    (rest others : List UInt8) :
    String.utf8EncodeChar character ++ rest < String.utf8EncodeChar other ++ others := by
  have values : character.toNat < other.toNat := below
  obtain ⟨bound, ordered⟩ := leadByte_lt_or_eq values (toNat_lt other)
  rw [utf8EncodeChar_eq, utf8EncodeChar_eq, List.cons_append, List.cons_append]
  refine ofNat_cons_lt bound (ordered.imp_right fun ⟨equal, long⟩ => ⟨equal, ?_⟩)
  rw [leadByte, leadByte, long, Nat.add_left_inj] at equal
  rw [long]
  exact digitBytes_append_lt values equal rest others

/-- Texts in ascending order are in ascending order byte by byte. -/
theorem encode_lt_encode {text other : List Char} (below : text < other) :
    encode text < encode other := by
  induction below with
  | nil =>
    rw [encode_cons, utf8EncodeChar_eq, List.cons_append]
    exact List.nil_lt_cons _ _
  | rel first =>
    rw [encode_cons, encode_cons]
    exact utf8EncodeChar_append_lt first _ _
  | cons _ inductionHypothesis =>
    rw [encode_cons, encode_cons]
    exact List.append_left_lt inductionHypothesis

end Golden.Text
