import DiceTower.Text.Digit

/-!
# Numerals

A numeral is the decimal writing of an integer. Numerals are read in any script of decimal digits
and written in ASCII, and neither way may one have more than `maxDigits` digits: `read` refuses a
longer text, leading zeros included, and `Fits` holds of the integers whose numeral is short
enough to be written. A sign is not a digit.
-/

namespace DiceTower.Numeral

open DiceTower.Text

/-- The most digits a numeral may have. -/
def maxDigits : Nat := 4300

/-- The least natural number that is too long to be written. -/
def bound : Nat := Nat.pow 10 maxDigits

/-- The two ways a numeral can be too long: as a text of so many digits that should be read, or
as an integer that should be written. -/
inductive Fault where
  | unreadable (digits : Nat)
  | unwritable
deriving DecidableEq, Repr, Inhabited

/-- The wording of a fault. -/
def Fault.message : Fault → String
  | .unreadable digits =>
    "Exceeds the limit (4300 digits) for integer string conversion: value has " ++
      toString digits ++ " digits; use sys.set_int_max_str_digits() to increase the limit"
  | .unwritable =>
    "Exceeds the limit (4300 digits) for integer string conversion; " ++
      "use sys.set_int_max_str_digits() to increase the limit"

/-- The number a text of digits denotes; the empty text denotes zero. -/
def value (digits : List Char) : Nat :=
  digits.foldl (fun sum digit => 10 * sum + digitValue digit) 0

/-- Reads a text of digits. Every digit counts, also a leading zero. -/
def read (digits : List Char) : Except Fault Nat :=
  if digits.length ≤ maxDigits then .ok (value digits) else .error (.unreadable digits.length)

/-- The integers whose numeral is short enough to be written. -/
def Fits (n : Int) : Prop :=
  n.natAbs < bound

instance (n : Int) : Decidable (Fits n) :=
  inferInstanceAs (Decidable (n.natAbs < bound))

/-- An integer fits exactly if its numeral has no more than the most digits. -/
theorem fits_iff_length_le (n : Int) :
    Fits n ↔ (Nat.toDigits 10 n.natAbs).length ≤ maxDigits := by
  rw [Fits, bound, Nat.pow_eq]
  exact (Nat.length_toDigits_le_iff (by decide) (by decide)).symm

theorem read_nil : read [] = .ok 0 := rfl

theorem read_eq_ok_iff {digits : List Char} {n : Nat} :
    read digits = .ok n ↔ digits.length ≤ maxDigits ∧ value digits = n := by
  unfold read
  split
  · rename_i short
    simp [short]
  · rename_i long
    simp [long]

theorem read_eq_error_iff {digits : List Char} {fault : Fault} :
    read digits = .error fault ↔
      maxDigits < digits.length ∧ fault = .unreadable digits.length := by
  unfold read
  split
  · rename_i short
    simp only [reduceCtorEq, false_iff]
    omega
  · rename_i long
    simp only [Except.error.injEq]
    constructor
    · rintro rfl
      exact ⟨by omega, rfl⟩
    · rintro ⟨-, rfl⟩
      rfl

end DiceTower.Numeral
