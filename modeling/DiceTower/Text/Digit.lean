/-!
# Decimal digits

A number in a command may be written in any script that has decimal digits. Every such script
has its ten digits in one run of code points that starts at its zero, so the class is given by the
list of zeros. `digit?` reads a character, and `digitValue` is its value, zero off the class.
-/

namespace DiceTower.Text

/-- The code points of the zeros of the scripts with decimal digits, in increasing order. Each is
followed directly by the digits one to nine of its script. -/
def zeros : List Nat :=
  [0x0030, 0x0660, 0x06F0, 0x07C0, 0x0966, 0x09E6, 0x0A66, 0x0AE6, 0x0B66, 0x0BE6, 0x0C66,
    0x0CE6, 0x0D66, 0x0DE6, 0x0E50, 0x0ED0, 0x0F20, 0x1040, 0x1090, 0x17E0, 0x1810, 0x1946,
    0x19D0, 0x1A80, 0x1A90, 0x1B50, 0x1BB0, 0x1C40, 0x1C50, 0xA620, 0xA8D0, 0xA900, 0xA9D0,
    0xA9F0, 0xAA50, 0xABF0, 0xFF10, 0x104A0, 0x10D30, 0x11066, 0x110F0, 0x11136, 0x111D0,
    0x112F0, 0x11450, 0x114D0, 0x11650, 0x116C0, 0x11730, 0x118E0, 0x11950, 0x11C50, 0x11D50,
    0x11DA0, 0x16A60, 0x16AC0, 0x16B50, 0x1D7CE, 0x1D7D8, 0x1D7E2, 0x1D7EC, 0x1D7F6, 0x1E140,
    0x1E2F0, 0x1E950, 0x1FBF0]

/-- The value of a decimal digit of any script, `none` for every other character. Below the second
script only the ASCII digits are left, so most characters are decided without the table. -/
def digit? (c : Char) : Option Nat :=
  let n := c.toNat
  if n < 0x0660 then
    if 0x0030 ≤ n ∧ n < 0x003A then some (n - 0x0030) else none
  else
    (zeros.find? fun base => base ≤ n && n < base + 10).map (n - ·)

/-- The decimal digits of all scripts. -/
def isDigit (c : Char) : Bool :=
  (digit? c).isSome

/-- The value of a decimal digit, and zero for every other character. -/
def digitValue (c : Char) : Nat :=
  (digit? c).getD 0

/-- The longest run of digits a text starts with, and what follows it. -/
def spanDigits (text : List Char) : List Char × List Char :=
  (text.takeWhile isDigit, text.dropWhile isDigit)

theorem digit?_lt_ten {c : Char} {value : Nat} (h : digit? c = some value) : value < 10 := by
  unfold digit? at h
  simp only at h
  split at h
  · split at h
    · rename_i range
      have := Option.some.inj h
      omega
    · cases h
  · simp only [Option.map_eq_some_iff] at h
    obtain ⟨base, found, rfl⟩ := h
    have range := List.find?_some found
    simp only [Bool.and_eq_true, decide_eq_true_eq] at range
    omega

theorem digitValue_lt_ten (c : Char) : digitValue c < 10 := by
  unfold digitValue
  cases h : digit? c with
  | none => exact Nat.zero_lt_succ 9
  | some value => exact digit?_lt_ten h

theorem spanDigits_append (text : List Char) :
    (spanDigits text).1 ++ (spanDigits text).2 = text :=
  List.takeWhile_append_dropWhile

/-- Every digit of core is a decimal digit. -/
theorem isDigit_of_ascii {c : Char} (h : c.isDigit = true) : isDigit c = true := by
  have bounds : 48 ≤ c.toNat ∧ c.toNat ≤ 57 := by
    simp only [Char.isDigit, Bool.and_eq_true, decide_eq_true_eq] at h
    exact h
  have low : c.toNat < 0x0660 := by omega
  have range : 0x0030 ≤ c.toNat ∧ c.toNat < 0x003A := by omega
  simp [isDigit, digit?, low, range]

end DiceTower.Text
