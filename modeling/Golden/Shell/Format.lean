/-
This file puts words into formats. A directive of a format says with how many places
and in which way a word is written: as text, as an integer in one of three bases or as
a fraction. A format is gone through again as long as it uses up words; a missing word
counts as empty, and a word that is no number as the number that it starts with, which
is complained about.
-/

import Golden.Shell.Escape
import Golden.Shell.Number

namespace Golden.Shell.Format

open Golden Golden.Text

/-! ### Directives -/

/-- What a directive says besides its letter. -/
structure Layout where
  isLeft : Bool
  padsZeros : Bool
  showsPlus : Bool
  showsSpace : Bool
  isAlternate : Bool
  width : Nat
  precision? : Option Nat
deriving DecidableEq, Repr

/-- The layout that says nothing. -/
def Layout.plain : Layout := ⟨false, false, false, false, false, 0, none⟩

/-- A text in as many places as the layout asks for, filled with blanks. -/
def Layout.pad (layout : Layout) (text : Octets) : Octets :=
  let blanks := List.replicate (layout.width - text.length) ' '
  if layout.isLeft then text ++ blanks else blanks ++ text

/-- The sign in front of a number. -/
def Layout.sign (layout : Layout) (isNegative : Bool) : Octets :=
  if isNegative then ['-']
  else if layout.showsPlus then ['+']
  else if layout.showsSpace then [' ']
  else []

/-- A number with what stands in front of it, filled with zeros if the layout asks for that. -/
def Layout.padNumber (layout : Layout) (zeros : Bool) (front digits : Octets) : Octets :=
  if zeros && layout.padsZeros && !layout.isLeft then
    front ++ List.replicate (layout.width - front.length - digits.length) '0' ++ digits
  else layout.pad (front ++ digits)

/-! ### Integers -/

/-- The digits of an integer with at least as many places as the layout asks for. -/
def Layout.digits (layout : Layout) (base : Nat) (number : Nat) : Octets :=
  let digits := if number = 0 && layout.precision? = some 0 then [] else Nat.toDigits base number
  List.replicate (layout.precision?.getD 0 - digits.length) '0' ++ digits

/-- A number with a sign. -/
def Layout.signed (layout : Layout) (number : Int) : Octets :=
  layout.padNumber layout.precision?.isNone (layout.sign (number < 0))
    (layout.digits 10 number.natAbs)

/-- A number without a sign, in the base of a letter. -/
def Layout.unsigned (layout : Layout) (letter : Char) (number : Nat) : Octets :=
  let base := if letter = 'o' then 8 else if letter = 'u' then 10 else 16
  let digits := layout.digits base number
  let digits := if letter = 'X' then digits.map Char.toUpper else digits
  let (front, digits) : Octets × Octets :=
    if layout.isAlternate && letter = 'o' then
      ([], if digits.head? = some '0' then digits else '0' :: digits)
    else if !layout.isAlternate || number = 0 || letter = 'u' then ([], digits)
    else (['0', letter], digits)
  layout.padNumber layout.precision?.isNone front digits

/-! ### Fractions -/

/-- The greatest power of ten that is not greater than a fraction, found from a guess. -/
def magnitude (fraction : Fraction) : Nat → Int → Int
  | 0, guess => guess
  | fuel + 1, guess =>
    let scaled := timesPower 10 fraction (-guess)
    if scaled.numerator < scaled.denominator then magnitude fraction fuel (guess - 1)
    else if 10 * scaled.denominator ≤ scaled.numerator then magnitude fraction fuel (guess + 1)
    else guess

/-- A fraction with a number of places behind the point. -/
def positional (isAlternate : Bool) (places : Nat) (fraction : Fraction) : Octets :=
  let digits := Octets.ofNat (timesPower 10 fraction places).nearest
  let digits := List.replicate (places + 1 - digits.length) '0' ++ digits
  let whole := digits.take (digits.length - places)
  let point := if places > 0 || isAlternate then ['.'] else []
  whole ++ point ++ digits.drop (digits.length - places)

/-- A fraction as a number between one and ten with a number of places, and its power of ten. -/
def scientific (places : Nat) (fraction : Fraction) : Octets × Int :=
  if fraction.numerator = 0 then (List.replicate (places + 1) '0', 0)
  else
    let guess : Int :=
      ((fraction.numerator.log2 : Int) - fraction.denominator.log2) * 3 / 10
    let power := magnitude fraction 400 guess
    let digits := Octets.ofNat (timesPower 10 fraction (places - power)).nearest
    if digits.length > places + 1 then (digits.dropLast, power + 1) else (digits, power)

/-- A power of ten behind a number. -/
def exponentText (letter : Char) (power : Int) : Octets :=
  let digits := Octets.ofNat power.natAbs
  let digits := if digits.length < 2 then '0' :: digits else digits
  letter :: (if power < 0 then '-' else '+') :: digits

/-- Digits with a point behind the first one. -/
def pointed (isAlternate : Bool) (digits : Octets) : Octets :=
  let rest := digits.drop 1
  digits.take 1 ++ (if rest.isEmpty && !isAlternate then [] else '.' :: rest)

/-- A fraction with a power of two, which stands in front of the power with digits in the base
sixteen behind a point. Without a number of places there are as many as are needed. -/
def hexadecimal (isAlternate : Bool) (places? : Option Nat) (fraction : Fraction) : Octets :=
  let guess : Int := (fraction.numerator.log2 : Int) - fraction.denominator.log2
  let isSmaller := isLess fraction (timesPower 2 ⟨1, 1⟩ guess)
  let power : Int :=
    if fraction.numerator = 0 then 0 else max (-1022) (if isSmaller then guess - 1 else guess)
  let places := places?.getD 13
  let count := (timesPower 16 (timesPower 2 fraction (-power)) places).nearest
  let digits := Nat.toDigits 16 count
  let digits := List.replicate (places + 1 - digits.length) '0' ++ digits
  let digits :=
    if places?.isSome then digits
    else digits.take 1 ++ ((digits.drop 1).reverse.dropWhile (· = '0')).reverse
  let sign := if power < 0 then '-' else '+'
  pointed isAlternate digits ++ 'p' :: sign :: Octets.ofNat power.natAbs

/-- A fraction as the letter of a directive asks for. -/
def Layout.fractional (layout : Layout) (letter : Char) (fraction : Fraction) : Octets :=
  let places := layout.precision?.getD 6
  let power := if letter.isUpper then 'E' else 'e'
  if letter.toLower = 'f' then positional layout.isAlternate places fraction
  else if letter.toLower = 'e' then
    let (digits, exponent) := scientific places fraction
    pointed layout.isAlternate digits ++ exponentText power exponent
  else
    let significant := max places 1
    let (digits, exponent) := scientific (significant - 1) fraction
    let trim (text : Octets) : Octets :=
      if layout.isAlternate || !text.contains '.' then text
      else (((text.reverse.dropWhile (· = '0')).dropWhile (· = '.')).reverse)
    if exponent < -4 || (significant : Int) ≤ exponent then
      trim (pointed layout.isAlternate digits) ++ exponentText power exponent
    else
      trim (positional layout.isAlternate ((significant : Int) - 1 - exponent).toNat fraction)

/-- A number of double precision as the letter of a directive asks for. -/
def Layout.double (layout : Layout) (letter : Char) (number : Double) : Octets :=
  let cased (text : Octets) : Octets := if letter.isUpper then text.map Char.toUpper else text
  let sign := layout.sign number.isNegative
  match number.size with
  | .endless => layout.pad (sign ++ cased "inf".toList)
  | .undefined => layout.pad (sign ++ cased "nan".toList)
  | .finite fraction =>
    if letter.toLower = 'a' then
      layout.padNumber true (sign ++ cased "0x".toList)
        (cased (hexadecimal layout.isAlternate layout.precision? fraction))
    else layout.padNumber true sign (layout.fractional letter fraction)

/-! ### Formats -/

/-- What came of a format so far. -/
structure Printed where
  text : Octets
  left : List Octets
  complaints : List Octets
  status : Nat
  /-- Whether nothing more is printed. -/
  isOver : Bool

/-- Printing by a format. -/
abbrev Printing := StateM Printed

/-- Prints a text. -/
def put (text : Octets) : Printing Unit :=
  modify fun printed => { printed with text := printed.text ++ text }

/-- Takes the next word, if there is one. -/
def takeWord : Printing (Option Octets) := do
  let printed ← get
  set { printed with left := printed.left.drop 1 }
  return printed.left.head?

/-- Complains about a word. -/
def mention (word : Octets) (blemish? : Option Blemish) : Printing Unit := do
  match blemish? with
  | none => return
  | some blemish =>
    modify fun printed =>
      { printed with
        complaints := printed.complaints ++ [word ++ (": " ++ blemish.words).toList]
        status := max printed.status 1 }

/-- Gives up with a complaint. -/
def giveUp (words : Octets) : Printing Unit :=
  modify fun printed =>
    { printed with
      complaints := printed.complaints ++ [words]
      status := 2
      isOver := true }

/-- Takes the next word as an integer. -/
def takeInteger (isSigned : Bool) : Printing Int := do
  let word := (← takeWord).getD []
  let (value, blemish?) := integerOf isSigned word
  mention word blemish?
  return value

/-- Prints what a directive asks for. -/
def obey (layout : Layout) (letter : Char) (source : Octets) : Printing Unit := do
  let cut (text : Octets) : Octets :=
    match layout.precision? with
    | some length => text.take length
    | none => text
  if letter = 's' then put (layout.pad (cut ((← takeWord).getD [])))
  else if letter = 'b' then
    let (text, goesOn) := resolve ((← takeWord).getD [])
    put (layout.pad (cut text))
    if !goesOn then modify fun printed => { printed with isOver := true }
  else if letter = 'c' then
    put (layout.pad [(((← takeWord).getD []).head?).getD '\x00'])
  else if letter = 'd' || letter = 'i' then put (layout.signed (← takeInteger true))
  else if "ouxX".toList.contains letter then
    put (layout.unsigned letter (← takeInteger false).toNat)
  else if "aAeEfFgG".toList.contains letter then
    let word := (← takeWord).getD []
    let (number, blemish?) := doubleOf word
    mention word blemish?
    put (layout.double letter number)
  else giveUp (source ++ ": invalid directive".toList)

/-- The flags that a directive starts with. -/
def readFlags : Octets → Layout → Layout × Octets
  | [], layout => (layout, [])
  | octet :: rest, layout =>
    match octet with
    | '-' => readFlags rest { layout with isLeft := true }
    | '0' => readFlags rest { layout with padsZeros := true }
    | '+' => readFlags rest { layout with showsPlus := true }
    | ' ' => readFlags rest { layout with showsSpace := true }
    | '#' => readFlags rest { layout with isAlternate := true }
    | _ => (layout, octet :: rest)

/-- A number in a directive. A star takes one of thirty-two bits from the words. -/
def readNumber (format : Octets) : Printing (Int × Octets) := do
  match format with
  | '*' :: rest => return (Int.bmod (← takeInteger true) (1 <<< 32), rest)
  | _ =>
    let (digits, rest) := leadingDigits 10 format
    return ((numberOf 10 digits : Nat), rest)

/-- A directive behind its first octet: its layout, its letter and what follows it. -/
def readDirective (format : Octets) : Printing (Layout × Octets) := do
  let (layout, rest) := readFlags format .plain
  let (width, rest) ← readNumber rest
  let layout := { layout with width := width.natAbs, isLeft := layout.isLeft || width < 0 }
  match rest with
  | '.' :: rest =>
    let (precision, rest) ← readNumber rest
    return ({ layout with precision? := if precision < 0 then none else some precision.toNat },
      rest)
  | _ => return (layout, rest)

/-- Goes through a format once. -/
def goThrough : Nat → Octets → Printing Unit
  | 0, _ => return
  | _, [] => return
  | fuel + 1, octet :: rest => do
    if octet = '\\' then
      match escape? rest with
      | some (value, length) =>
        put [value]
        goThrough fuel (rest.drop length)
      | none =>
        put [octet]
        goThrough fuel rest
    else if octet ≠ '%' then
      put [octet]
      goThrough fuel rest
    else if rest.head? = some '%' then
      put ['%']
      goThrough fuel (rest.drop 1)
    else
      let (layout, after) ← readDirective rest
      match after with
      | [] => giveUp "missing format character".toList
      | letter :: after =>
        obey layout letter (octet :: rest.take (rest.length - after.length))
        if !(← get).isOver then goThrough fuel after

/-- Goes through a format as long as it uses up words. -/
def goOn (format : Octets) : Nat → Printing Unit
  | 0 => return
  | rounds + 1 => do
    let before := (← get).left.length
    goThrough format.length format
    let printed ← get
    if !printed.isOver && !printed.left.isEmpty && printed.left.length < before then
      goOn format rounds

/-- What a format prints for words. -/
def print (format : Octets) (words : List Octets) : Printed :=
  ((goOn format (words.length + 1)).run ⟨[], words, [], 0, false⟩).2

end Golden.Shell.Format
