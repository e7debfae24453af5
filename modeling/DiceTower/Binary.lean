import DiceTower.Rounding

/-!
# Binary numbers

A number with a fraction is kept as sixty-four bits keep it: a mantissa of at most fifty-three
binary digits, times two to an exponent, with a sign that zero has too. A number that is too large
for that is infinite.

`Binary.ofRatio` gives the binary number nearest to a quotient, of two that are equally near the
one whose mantissa is even, and `Binary.ofDecimal` the one nearest to a decimal. Going back,
`Binary.truncate` cuts off the fraction, and `Binary.expansion` is the exact decimal of a finite
number, which always ends.
-/

namespace DiceTower

/-- A number of sixty-four bits. -/
inductive Binary where
  /-- The mantissa times two to the exponent. -/
  | finite (negative : Bool) (mantissa : Nat) (exponent : Int)
  | infinite (negative : Bool)
deriving DecidableEq, Repr, Inhabited

namespace Binary

/-- The least mantissa of full length. -/
def fullMantissa : Nat := Nat.pow 2 52

/-- The least exponent. Only at it may a mantissa be shorter. -/
def leastExponent : Int := -1074

/-- The greatest exponent of a finite number. -/
def greatestExponent : Int := 971

/-- Zero, which has a sign. -/
def zero (negative : Bool) : Binary :=
  finite negative 0 leastExponent

/-- Whether a number carries the sign of those below zero. -/
def isNegative : Binary → Bool
  | finite negative _ _ => negative
  | infinite negative => negative

/-- Whether a number is zero, of either sign. -/
def isZero : Binary → Bool
  | finite _ mantissa _ => mantissa == 0
  | infinite _ => false

/-! ## Rounding to a binary number -/

/-- The exponent that gives a quotient above zero a mantissa of full length, or the least one. -/
def exponentOf (num den : Nat) : Int :=
  let guess : Int := (num.log2 : Int) - den.log2 - 52
  let short := num * Nat.pow 2 (-guess).toNat < fullMantissa * (den * Nat.pow 2 guess.toNat)
  max leastExponent (if short then guess - 1 else guess)

/-- The number of a mantissa that may just have become too long. -/
def normal (negative : Bool) (mantissa : Nat) (exponent : Int) : Binary :=
  let (mantissa, exponent) :=
    if mantissa = 2 * fullMantissa then (fullMantissa, exponent + 1) else (mantissa, exponent)
  if greatestExponent < exponent then infinite negative else finite negative mantissa exponent

/-- The binary number nearest to a quotient, with a sign. -/
def ofRatio (negative : Bool) (num den : Nat) : Binary :=
  if num = 0 then zero negative
  else
    let exponent := exponentOf num den
    normal negative
      (nearest (num * Nat.pow 2 (-exponent).toNat) (den * Nat.pow 2 exponent.toNat)) exponent

/-- The binary number nearest to an integer. -/
def ofInt (n : Int) : Binary :=
  ofRatio (n < 0) n.natAbs 1

/-- The binary number nearest to some digits times a power of ten. Beyond four hundred places on
either side of the point there is only infinity or zero. -/
def ofDecimal (negative : Bool) (digits : Nat) (power : Int) : Binary :=
  let leading := (Nat.toDigits 10 digits).length + power
  if digits = 0 ∨ leading < -400 then zero negative
  else if 400 < leading then infinite negative
  else ofRatio negative (digits * Nat.pow 10 power.toNat) (Nat.pow 10 (-power).toNat)

/-! ## Whole and decimal parts -/

/-- The size of a finite number without its fraction. -/
def wholePart (mantissa : Nat) (exponent : Int) : Nat :=
  mantissa * Nat.pow 2 exponent.toNat / Nat.pow 2 (-exponent).toNat

/-- The number without its fraction, unless it is infinite. -/
def truncate : Binary → Option Int
  | finite negative mantissa exponent =>
    let size : Int := wholePart mantissa exponent
    some (if negative then -size else size)
  | infinite _ => none

/-- Whether a number is finite and has no fraction. -/
def isWhole : Binary → Bool
  | finite _ mantissa exponent => mantissa % Nat.pow 2 (-exponent).toNat == 0
  | infinite _ => false

/-- A finite number as a count of units of a power of ten: the count, and the places behind the
point that a unit has. -/
def expansion (mantissa : Nat) (exponent : Int) : Nat × Nat :=
  (mantissa * Nat.pow 2 exponent.toNat * Nat.pow 5 (-exponent).toNat, (-exponent).toNat)

end Binary

end DiceTower
