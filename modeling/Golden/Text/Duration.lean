/-
This file writes durations. Whole milliseconds are cut down. Seconds are the
double-precision sum of the whole seconds and the nanoseconds over a thousand
million, and the exact value of that double is then rounded to hundredths. Both
roundings send a half to the even neighbour, and both are done on fractions of
natural numbers, so no floating-point unit is needed to say what is printed.
-/

namespace Golden.Text

/-! ### Fractions -/

/-- A non-negative fraction; its value is `numerator / denominator`. -/
structure Fraction where
  numerator : Nat
  denominator : Nat

namespace Fraction

/-- The nearest natural number, and the even one of two that are equally near. -/
def nearest (fraction : Fraction) : Nat :=
  let whole := fraction.numerator / fraction.denominator
  let twice := 2 * (fraction.numerator % fraction.denominator)
  if twice < fraction.denominator then whole
  else if fraction.denominator < twice then whole + 1
  else whole + whole % 2

/-- The sum of two fractions. -/
def add (left right : Fraction) : Fraction :=
  ⟨left.numerator * right.denominator + right.numerator * left.denominator,
    left.denominator * right.denominator⟩

/-- The fraction with the given natural number as its value times `2 ^ exponent`. -/
def scaled (significand : Nat) (exponent : Int) : Fraction :=
  ⟨significand * Nat.pow 2 exponent.toNat, Nat.pow 2 (-exponent).toNat⟩

/-- The nearest fraction with a significand of 53 bits, of which the last one is worth no less than
the least number of double precision. -/
def toDouble (fraction : Fraction) : Fraction :=
  if fraction.numerator = 0 then ⟨0, 1⟩
  else
    let guess : Int := (fraction.numerator.log2 : Int) - fraction.denominator.log2
    let small : Bool :=
      fraction.numerator * Nat.pow 2 (-guess).toNat <
        fraction.denominator * Nat.pow 2 guess.toNat
    let exponent : Int := max (-1074) (if small then guess - 53 else guess - 52)
    let reduced : Fraction :=
      ⟨fraction.numerator * Nat.pow 2 (-exponent).toNat,
        fraction.denominator * Nat.pow 2 exponent.toNat⟩
    scaled reduced.nearest exponent

end Fraction

/-! ### Durations -/

/-- The number of nanoseconds in a second. -/
def nanosecondsPerSecond : Nat := 1000000000

/-- A length of time: whole seconds, and less than a second of nanoseconds. -/
structure Duration where
  seconds : Nat
  nanoseconds : Nat
  below : nanoseconds < nanosecondsPerSecond
deriving DecidableEq, Repr

namespace Duration

/-- No time at all. -/
def zero : Duration := ⟨0, 0, by decide⟩

/-- The length of time of seconds and nanoseconds, of which there may be more than make a second. -/
def of (seconds nanoseconds : Nat) : Duration where
  seconds := seconds + nanoseconds / nanosecondsPerSecond
  nanoseconds := nanoseconds % nanosecondsPerSecond
  below := Nat.mod_lt _ (by decide)

/-- The whole milliseconds of a duration. -/
def milliseconds (duration : Duration) : Nat :=
  duration.seconds * 1000 + duration.nanoseconds / 1000000

/-- The duration in seconds, as a double. -/
def toSeconds (duration : Duration) : Fraction :=
  let whole := (Fraction.mk duration.seconds 1).toDouble
  let part := (Fraction.mk duration.nanoseconds nanosecondsPerSecond).toDouble
  (whole.add part).toDouble

/-- A number of hundredths, written with a point and two places. -/
def hundredths (count : Nat) : String :=
  let places := count % 100
  toString (count / 100) ++ "." ++ (if places < 10 then "0" else "") ++ toString places

/-- The seconds of a duration with two places. -/
def secondsText (duration : Duration) : String :=
  let seconds := duration.toSeconds
  hundredths (Fraction.mk (100 * seconds.numerator) seconds.denominator).nearest

end Duration

end Golden.Text
