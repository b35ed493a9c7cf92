/-
This file reads the numbers that words start with. An integer is written in the base
that it says and is kept within sixty-four bits. Any other number is written with
digits in the base ten or sixteen and a power, and becomes the nearest number of
double precision; it can also be endless or no number at all. What is wrong with a
word is told along with the number, because a number is used all the same.
-/

import Golden.Text.Digits
import Golden.Text.Duration

namespace Golden.Shell

open Golden Golden.Text

/-! ### What can be wrong -/

/-- What is wrong with a word that should be a number. -/
inductive Blemish
  | noNumber
  | incomplete
  | outOfRange
deriving DecidableEq, Repr

/-- The words for what is wrong with a word. -/
def Blemish.words : Blemish → String
  | .noNumber => "expected numeric value"
  | .incomplete => "not completely converted"
  | .outOfRange => "Numerical result out of range"

/-- The number of the octet behind a quote at the start of a word. -/
def quotedNumber? : Octets → Option Nat
  | '"' :: rest | '\'' :: rest => some ((rest.head?.map Char.toNat).getD 0)
  | _ => none

/-! ### Integers -/

/-- The integer that a word starts with, and what is wrong with the word. -/
def integerOf (isSigned : Bool) (word : Octets) : Int × Option Blemish :=
  match quotedNumber? word with
  | some value => (value, none)
  | none =>
    let (isNegative, body) := withoutSign word
    let (base, body) := baseOf body
    let (digits, after) := leadingDigits base body
    if word.isEmpty then (0, none)
    else if digits.isEmpty then (0, some .noNumber)
    else
      let size := numberOf base digits
      let (limit, value) : Nat × Int :=
        if isSigned then
          if isNegative then (1 <<< 63, -(min size (1 <<< 63) : Nat))
          else ((1 <<< 63) - 1, (min size ((1 <<< 63) - 1) : Nat))
        else if isNegative && size < 1 <<< 64 then
          ((1 <<< 64) - 1, (((1 <<< 64) - size) % (1 <<< 64) : Nat))
        else ((1 <<< 64) - 1, (min size ((1 <<< 64) - 1) : Nat))
      let blemish? :=
        if !after.isEmpty then some .incomplete
        else if limit < size then some .outOfRange
        else none
      (value, blemish?)

/-! ### Numbers of double precision -/

/-- How great a number of double precision is. -/
inductive Size
  | finite (fraction : Fraction)
  | endless
  | undefined

/-- A number of double precision. -/
structure Double where
  isNegative : Bool
  size : Size

/-- A fraction times a power of a base. -/
def timesPower (base : Nat) (fraction : Fraction) (power : Int) : Fraction :=
  ⟨fraction.numerator * Nat.pow base power.toNat,
    fraction.denominator * Nat.pow base (-power).toNat⟩

/-- Whether a fraction is less than another one. -/
def isLess (left right : Fraction) : Bool :=
  left.numerator * right.denominator < right.numerator * left.denominator

/-- The size of double precision that is nearest to a fraction, and whether there is none that is
near enough. -/
def sizeOf (exact : Fraction) : Size × Bool :=
  let near := exact.toDouble
  if !isLess near ⟨1 <<< 1024, 1⟩ then (.endless, true)
  else
    let isExact := !isLess near exact && !isLess exact near
    (.finite near, isLess exact ⟨1, 1 <<< 1022⟩ && !isExact)

/-- The power that follows a mark, and what follows it, where there is one. -/
def takePower (mark : Char) (text : Octets) : Int × Octets :=
  match text with
  | first :: more =>
    let isSmall := more.head? = some '-'
    let number := if isSmall || more.head? = some '+' then more.drop 1 else more
    let (digits, after) := leadingDigits 10 number
    if first.toLower ≠ mark || digits.isEmpty then (0, text)
    else
      let size : Int := min (numberOf 10 digits) 9999
      (if isSmall then -size else size, after)
  | [] => (0, text)

/-- The fraction that digits with a point and a power write, and what follows them. In the base
sixteen the power is one of two. -/
def takeFraction (base : Nat) (text : Octets) : Option (Fraction × Octets) :=
  let (whole, rest) := leadingDigits base text
  let (places, rest) :=
    match rest with
    | '.' :: after => leadingDigits base after
    | _ => ([], rest)
  if whole.isEmpty && places.isEmpty then none
  else
    let digits : Fraction := ⟨numberOf base (whole ++ places), Nat.pow base places.length⟩
    let (power, after) := takePower (if base = 16 then 'p' else 'e') rest
    some (timesPower (if base = 16 then 2 else 10) digits power, after)

/-- What follows a name at the start of a text, where the case of letters does not count. -/
def withoutName? (name : String) (text : Octets) : Option Octets :=
  let length := name.length
  if (text.take length).map Char.toLower = name.toList then some (text.drop length) else none

/-- The size that a text starts with, whether it is out of range, and what follows it. -/
def takeSize (text : Octets) : Option (Size × Bool × Octets) :=
  match withoutName? "inf" text, withoutName? "nan" text, withoutName? "0x" text with
  | some after, _, _ => some (.endless, false, (withoutName? "inity" after).getD after)
  | _, some after, _ =>
    let inside := (after.drop 1).takeWhile fun octet => octet.isAlphanum || octet = '_'
    let behind := after.drop (inside.length + 1)
    let hasNote := after.head? = some '(' && behind.head? = some ')'
    some (.undefined, false, if hasNote then behind.drop 1 else after)
  | _, _, some digits =>
    match takeFraction 16 digits with
    | some (exact, after) =>
      let (size, isOut) := sizeOf exact
      some (size, isOut, after)
    | none => some (.finite ⟨0, 1⟩, false, text.drop 1)
  | _, _, _ => do
    let (exact, after) ← takeFraction 10 text
    let (size, isOut) := sizeOf exact
    return (size, isOut, after)

/-- The number of double precision that a word starts with, and what is wrong with the word. -/
def doubleOf (word : Octets) : Double × Option Blemish :=
  match quotedNumber? word with
  | some value => (⟨false, .finite ⟨value, 1⟩⟩, none)
  | none =>
    let (isNegative, body) := withoutSign word
    match takeSize body with
    | some (size, isOut, after) =>
      let blemish? :=
        if !after.isEmpty then some .incomplete
        else if isOut then some .outOfRange
        else none
      (⟨isNegative, size⟩, blemish?)
    | none => (⟨false, .finite ⟨0, 1⟩⟩, if word.isEmpty then none else some .noNumber)

end Golden.Shell
