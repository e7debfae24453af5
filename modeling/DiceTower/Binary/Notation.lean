import DiceTower.Binary.Shortest

/-!
# Writing binary numbers

A binary number is written positionally, with the digits before and behind a point, or
scientifically, with one digit before the point and an exponent of at least two digits. By itself
it has the fewest digits that are read back: `Binary.text` writes it positionally between a ten
thousandth and 10¹⁶, always with a digit behind the point. In a form it has a set number of digits:
`Binary.fixed` sets the places behind the point, `Binary.scientific` those behind the first digit,
and `Binary.general` the digits altogether, and there zeros at the end are left out.
-/

namespace DiceTower.Binary

/-- Digits without the zeros at their end; one digit stays. -/
def trimZeros (digits : List Char) : List Char :=
  match (digits.reverse.dropWhile (· == '0')).reverse with
  | [] => ['0']
  | kept => kept

/-- The digits before and behind the point, where the point stands behind some number of them. -/
def split (digits : List Char) (point : Int) : List Char × List Char :=
  let before := point.toNat
  let whole := digits.take before ++ List.replicate (before - digits.length) '0'
  (if whole.isEmpty then ['0'] else whole,
    List.replicate (-point).toNat '0' ++ digits.drop before)

/-- Digits with a point between them. Without digits behind it the point is left out, unless it is
asked for. -/
def pointed (marked : Bool) (parts : List Char × List Char) : List Char :=
  if parts.2.isEmpty && !marked then parts.1 else parts.1 ++ '.' :: parts.2

/-- An exponent with its sign and at least two digits. -/
def exponentText (exponent : Int) : List Char :=
  let digits := Nat.toDigits 10 exponent.natAbs
  'e' :: (if exponent < 0 then '-' else '+') :: (List.replicate (2 - digits.length) '0' ++ digits)

/-- Digits in scientific writing. -/
def scientificText (marked : Bool) (digits : List Char) (exponent : Int) : List Char :=
  pointed marked (digits.take 1, digits.drop 1) ++ exponentText exponent

/-- The size of a finite number, written by itself. -/
def shortestText (mantissa : Nat) (exponent : Int) : List Char :=
  let (count, power) := shortest mantissa exponent
  let digits := Nat.toDigits 10 count
  let point := digits.length + power
  let digits := trimZeros digits
  if -4 < point ∧ point ≤ 16 then
    match split digits point with
    | (whole, []) => pointed true (whole, ['0'])
    | parts => pointed true parts
  else
    scientificText false digits (point - 1)

/-- A size behind the sign of its number. -/
def signed (negative : Bool) (size : String) : String :=
  if negative then "-" ++ size else size

/-- A number written by itself. -/
def text : Binary → String
  | finite negative mantissa exponent =>
    signed negative (String.ofList (shortestText mantissa exponent))
  | infinite negative => signed negative "inf"

/-! ## A set number of digits -/

/-- A size with a set number of places behind the point. -/
def fixedText (marked : Bool) (places mantissa : Nat) (exponent : Int) : List Char :=
  let (count, held) := expansion mantissa exponent
  let digits := Nat.toDigits 10 (nearest (count * Nat.pow 10 places) (Nat.pow 10 held))
  pointed marked (split digits (digits.length - places))

/-- The leading digits of a size, rounded to a number of them if there are more, and the exponent
of the first one. -/
def leading (most mantissa : Nat) (exponent : Int) : List Char × Int :=
  let (count, held) := expansion mantissa exponent
  let digits := Nat.toDigits 10 count
  let first : Int := digits.length - 1 - held
  if mantissa = 0 then (['0'], 0)
  else if digits.length ≤ most then (digits, first)
  else
    let rounded := Nat.toDigits 10 (nearest count (Nat.pow 10 (digits.length - most)))
    (rounded.take most, if rounded.length ≤ most then first else first + 1)

/-- Digits with zeros behind them up to a number. -/
def fill (most : Nat) (digits : List Char) : List Char :=
  digits ++ List.replicate (most - digits.length) '0'

/-- A size in scientific writing with a set number of places. -/
def scientificPlaces (marked : Bool) (places mantissa : Nat) (exponent : Int) : List Char :=
  let (digits, first) := leading (places + 1) mantissa exponent
  scientificText marked (fill (places + 1) digits) first

/-- A size with a set number of digits, positionally if its first digit is not too far from the
point. Zeros at the end are left out unless the point is asked for. -/
def generalText (marked : Bool) (most mantissa : Nat) (exponent : Int) : List Char :=
  let most := max 1 most
  let (digits, first) := leading most mantissa exponent
  let digits := if marked then fill most digits else trimZeros digits
  if first < -4 ∨ most ≤ first then scientificText marked digits first
  else pointed marked (split digits (first + 1))

/-- The ways to write a number in a set number of digits. -/
inductive Style where
  | fixed
  | scientific
  | general
deriving DecidableEq, Repr, Inhabited

/-- The size of a number in a style; an infinite one has no digits. -/
def size (style : Style) (marked : Bool) (precision : Nat) : Binary → String
  | infinite _ => "inf"
  | finite _ mantissa exponent =>
    String.ofList <|
      match style with
      | .fixed => fixedText marked precision mantissa exponent
      | .scientific => scientificPlaces marked precision mantissa exponent
      | .general => generalText marked precision mantissa exponent

end DiceTower.Binary
