import DiceTower.Numeral
import DiceTower.Proofs.Characters
import Mathlib.Algebra.Group.Nat.Defs

/-!
# Runs of digits

A number is written as a run of digits, of any script and with any zeros in front. Its value is
counted place by place (`Numeral.value_cons`), lies below the bound of writable numbers if the run
can be read (`Numeral.value_lt_bound`), and comes back from the decimal writing of a number
(`Numeral.value_toDigits`). `DigitRun` carries the three facts that make a text a number that can
be read.
-/

namespace DiceTower

open DiceTower.Text

namespace Numeral

/-! ## Values -/

/-- A fold over digits that starts from a sum adds that sum, moved before all of them. -/
theorem foldl_digits_eq (digits : List Char) (sum : Nat) :
    digits.foldl (fun sum digit => 10 * sum + digitValue digit) sum =
      sum * 10 ^ digits.length + value digits := by
  induction digits generalizing sum with
  | nil => simp [value]
  | cons digit rest ih =>
    rw [value, List.foldl_cons, List.foldl_cons, ih, ih (10 * 0 + digitValue digit),
      List.length_cons, Nat.pow_succ]
    rw [Nat.add_mul, ← Nat.add_assoc, Nat.mul_comm 10 sum, Nat.mul_assoc,
      Nat.mul_comm 10 (10 ^ rest.length)]
    simp

/-- The first digit counts with the power of ten of the number of digits after it. -/
theorem value_cons (digit : Char) (rest : List Char) :
    value (digit :: rest) = digitValue digit * 10 ^ rest.length + value rest := by
  rw [value, List.foldl_cons, foldl_digits_eq]
  simp

theorem value_lt_pow_length (digits : List Char) : value digits < 10 ^ digits.length := by
  induction digits with
  | nil => exact Nat.zero_lt_one
  | cons digit rest ih =>
    rw [value_cons, List.length_cons, Nat.pow_succ]
    have small : digitValue digit + 1 ≤ 10 := digitValue_lt_ten digit
    calc digitValue digit * 10 ^ rest.length + value rest
        < digitValue digit * 10 ^ rest.length + 10 ^ rest.length := Nat.add_lt_add_left ih _
      _ = (digitValue digit + 1) * 10 ^ rest.length := (Nat.succ_mul _ _).symm
      _ ≤ 10 * 10 ^ rest.length := Nat.mul_le_mul_right _ small
      _ = 10 ^ rest.length * 10 := Nat.mul_comm _ _

theorem bound_eq : bound = 10 ^ maxDigits := by
  rw [bound, Nat.pow_eq]

theorem bound_pos : 0 < bound := by
  rw [bound_eq]
  exact Nat.pow_pos (by decide)

/-- What can be read can be written. -/
theorem value_lt_bound {digits : List Char} (short : digits.length ≤ maxDigits) :
    value digits < bound := by
  rw [bound_eq]
  exact Nat.lt_of_lt_of_le (value_lt_pow_length digits) (Nat.pow_le_pow_right (by decide) short)

/-- The numbers of everyday commands are far below the bound. -/
theorem fits_of_natAbs_lt {n : Int} (small : n.natAbs < 10 ^ 12) : Fits n := by
  rw [Fits, bound_eq]
  exact Nat.lt_trans small (Nat.pow_lt_pow_right (by decide) (by decide))

theorem value_replicate_nine (count : Nat) : value (List.replicate count '9') + 1 = 10 ^ count := by
  induction count with
  | zero => rfl
  | succ count ih =>
    have nine : digitValue '9' = 9 := rfl
    rw [List.replicate_succ, value_cons, nine, List.length_replicate, Nat.add_assoc, ih,
      Nat.pow_succ]
    omega

theorem digitValue_of_ascii {c : Char} (ascii : c.isDigit = true) :
    digitValue c = c.toNat - '0'.toNat := by
  have bounds : 0x0030 ≤ c.toNat ∧ c.toNat ≤ 0x0039 := by
    simp only [Char.isDigit, Bool.and_eq_true, decide_eq_true_eq] at ascii
    exact ascii
  have low : c.toNat < 0x0660 := by omega
  have range : 0x0030 ≤ c.toNat ∧ c.toNat < 0x003A := by omega
  simp [digitValue, digit?, low, range]

/-- The decimal writing of a number has that number as its value. -/
theorem value_toDigits (n : Nat) : value (Nat.toDigits 10 n) = n := by
  have agree : ∀ (digits : List Char) (sum : Nat), (∀ c ∈ digits, c.isDigit = true) →
      digits.foldl (fun sum digit => 10 * sum + digitValue digit) sum =
        Nat.ofDigitChars 10 digits sum := by
    intro digits
    induction digits with
    | nil => intro sum _; rfl
    | cons digit rest ih =>
      intro sum ascii
      rw [List.foldl_cons, Nat.ofDigitChars_cons, digitValue_of_ascii (ascii digit (by simp))]
      exact ih _ fun c member => ascii c (List.mem_cons_of_mem _ member)
  rw [value, agree _ _ fun c member => Nat.isDigit_of_mem_toDigits (by decide) (by decide) member]
  exact Nat.ofDigitChars_ten_toDigits

theorem allDigits_toDigits (n : Nat) : AllDigits (Nat.toDigits 10 n) :=
  fun _ member =>
    isDigit_of_ascii (Nat.isDigit_of_mem_toDigits (by decide) (by decide) member)

/-- A number is written with digits and a minus sign only. -/
theorem not_mem_toString {c : Char} (noDigit : isDigit c = false) (noMinus : c ≠ '-')
    (n : Int) : c ∉ (toString n).toList := by
  cases n with
  | ofNat size =>
    change c ∉ size.repr.toList
    rw [Nat.toList_repr]
    exact (allDigits_toDigits size).not_mem noDigit
  | negSucc size =>
    change c ∉ ("-" ++ (size + 1).repr).toList
    rw [String.toList_append, Nat.toList_repr, List.mem_append, not_or]
    exact ⟨fun member => noMinus (List.mem_singleton.mp member),
      (allDigits_toDigits (size + 1)).not_mem noDigit⟩

end Numeral

/-! ## Numbers that can be read -/

/-- A number as it may be written: some digits, and not more than can be read. -/
structure DigitRun where
  /-- The digits, the one that counts most first. -/
  digits : List Char
  ne_nil : digits ≠ []
  allDigits : AllDigits digits
  length_le : digits.length ≤ Numeral.maxDigits

namespace DigitRun

/-- The number that is written. -/
def value (run : DigitRun) : Nat :=
  Numeral.value run.digits

theorem read_digits (run : DigitRun) : Numeral.read run.digits = .ok run.value :=
  Numeral.read_eq_ok_iff.mpr ⟨run.length_le, rfl⟩

/-- The writing of a number without zeros in front. -/
def ofNat (n : Nat) (fits : Numeral.Fits n) : DigitRun where
  digits := Nat.toDigits 10 n
  ne_nil := Nat.toDigits_ne_nil
  allDigits := Numeral.allDigits_toDigits n
  length_le := (Numeral.fits_iff_length_le n).mp fits

theorem value_ofNat (n : Nat) (fits : Numeral.Fits n) : (ofNat n fits).value = n :=
  Numeral.value_toDigits n

/-- The greatest number that can be read: as many nines as there may be digits. -/
def nines : DigitRun where
  digits := List.replicate Numeral.maxDigits '9'
  ne_nil := by
    rw [ne_eq, List.replicate_eq_nil_iff]
    decide
  allDigits := by
    intro c member
    rw [List.eq_of_mem_replicate member]
    rfl
  length_le := Nat.le_of_eq List.length_replicate

theorem value_nines : nines.value + 1 = Numeral.bound := by
  rw [Numeral.bound_eq]
  exact Numeral.value_replicate_nine Numeral.maxDigits

end DigitRun

end DiceTower
