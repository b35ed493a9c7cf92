/-
This file reads numbers in the bases eight, ten and sixteen. The digits above nine are
letters of either case. Blanks and a sign may stand in front of a number, and its digits
may say their base: sixteen behind a zero and the letter x, and eight behind a zero.
-/

import Golden.Text.Octets

namespace Golden.Text

open Golden

/-- Whether an octet is a digit in a base. -/
def isDigitIn (base : Nat) (octet : Char) : Bool :=
  if octet.isDigit then octet.toNat - 48 < base
  else base = 16 && "abcdefABCDEF".toList.contains octet

/-- The number that a digit stands for. -/
def digitValue (octet : Char) : Nat :=
  if octet.isDigit then octet.toNat - 48
  else if octet.isUpper then octet.toNat - 55
  else octet.toNat - 87

/-- The digits that a text starts with, and what follows them. -/
def leadingDigits (base : Nat) (text : Octets) : Octets × Octets :=
  (text.takeWhile (isDigitIn base), text.dropWhile (isDigitIn base))

/-- The number that digits stand for. -/
def numberOf (base : Nat) (digits : Octets) : Nat :=
  digits.foldl (fun value digit => value * base + digitValue digit) 0

/-- The base that digits say, and the digits behind the mark of the base. -/
def baseOf (digits : Octets) : Nat × Octets :=
  match digits with
  | '0' :: mark :: next :: rest =>
    if (mark = 'x' || mark = 'X') && isDigitIn 16 next then (16, next :: rest) else (8, digits)
  | '0' :: _ => (8, digits)
  | _ => (10, digits)

/-- Whether an octet is one of those that may stand around a number. -/
def isSpace (octet : Char) : Bool :=
  octet = ' ' || ('\t' ≤ octet && octet ≤ '\x0d')

/-- A word without the blanks and the sign in front of its number, and whether the sign is that of a
negative number. -/
def withoutSign (word : Octets) : Bool × Octets :=
  let bare := word.dropWhile isSpace
  let isNegative := bare.head? = some '-'
  (isNegative, if isNegative || bare.head? = some '+' then bare.drop 1 else bare)

end Golden.Text
