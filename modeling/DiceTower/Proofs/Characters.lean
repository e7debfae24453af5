import DiceTower.Text.Blank
import DiceTower.Text.Digit
import DiceTower.Text.Letter
import Mathlib.Data.List.Basic
import Mathlib.Data.List.TakeWhile

/-!
# Characters of a command

This module tells the digits of all scripts apart from the blanks and the letters that a command
gives a meaning to, and cuts texts where one class of characters ends: a run of a class is taken
off as a whole when nothing of the class follows it (`takeWhile_dropWhile_append`), and blanks
around a `Solid` text are stripped without loss (`strip_append`).
-/

namespace DiceTower.Text

/-! ## Digits and other characters -/

/-- A digit is one of the ten characters that start at the zero of its script. -/
theorem exists_base_of_isDigit {c : Char} (digit : isDigit c = true) :
    ∃ base ∈ zeros, base ≤ c.toNat ∧ c.toNat < base + 10 := by
  unfold isDigit digit? at digit
  simp only at digit
  split at digit
  · split at digit
    · rename_i range
      exact ⟨0x0030, List.mem_cons_self, range⟩
    · cases digit
  · rw [Option.isSome_map] at digit
    obtain ⟨base, found⟩ := Option.isSome_iff_exists.mp digit
    have range := List.find?_some found
    simp only [Bool.and_eq_true, decide_eq_true_eq] at range
    exact ⟨base, List.mem_of_find?_eq_some found, range⟩

/-- No digit has its code point in an interval that meets no run of ten from a zero on. -/
theorem isDigit_eq_false_of_between {c : Char} (low high : Nat)
    (apart : ∀ base ∈ zeros, base + 10 ≤ low ∨ high < base)
    (above : low ≤ c.toNat) (below : c.toNat ≤ high) : isDigit c = false := by
  rw [Bool.eq_false_iff]
  intro digit
  obtain ⟨base, member, range⟩ := exists_base_of_isDigit digit
  have := apart base member
  omega

/-- Blanks are no digits. -/
theorem isDigit_eq_false_of_isBlank {c : Char} (blank : isBlank c = true) :
    isDigit c = false := by
  simp only [isBlank, Bool.or_eq_true, Bool.and_eq_true, decide_eq_true_eq, beq_iff_eq,
    or_assoc] at blank
  rcases blank with range | range | point | point | point | range | point | point | point | point |
    point
  · exact isDigit_eq_false_of_between 9 13 (by decide) range.1 range.2
  · exact isDigit_eq_false_of_between 28 32 (by decide) range.1 range.2
  · exact isDigit_eq_false_of_between 0x85 0x85 (by decide) (by omega) (by omega)
  · exact isDigit_eq_false_of_between 0xA0 0xA0 (by decide) (by omega) (by omega)
  · exact isDigit_eq_false_of_between 0x1680 0x1680 (by decide) (by omega) (by omega)
  · exact isDigit_eq_false_of_between 0x2000 0x200A (by decide) range.1 range.2
  · exact isDigit_eq_false_of_between 0x2028 0x2028 (by decide) (by omega) (by omega)
  · exact isDigit_eq_false_of_between 0x2029 0x2029 (by decide) (by omega) (by omega)
  · exact isDigit_eq_false_of_between 0x202F 0x202F (by decide) (by omega) (by omega)
  · exact isDigit_eq_false_of_between 0x205F 0x205F (by decide) (by omega) (by omega)
  · exact isDigit_eq_false_of_between 0x3000 0x3000 (by decide) (by omega) (by omega)

theorem isBlank_eq_false_of_isDigit {c : Char} (digit : isDigit c = true) :
    isBlank c = false := by
  rw [Bool.eq_false_iff]
  intro blank
  rw [isDigit_eq_false_of_isBlank blank] at digit
  cases digit

/-- A character of a class is not one that the class leaves out. -/
theorem ne_of_class {inClass : Char → Bool} {c other : Char} (isIn : inClass c = true)
    (isOut : inClass other = false) : c ≠ other := by
  rintro rfl
  rw [isOut] at isIn
  cases isIn

/-! ## Letters -/

section Letters

variable {inClass : Char → Bool} {letters : List Char} {c : Char}

/-- A class that holds none of some letters does not hold one of them. -/
theorem eq_false_of_mem (member : c ∈ letters) (isOut : letters.any inClass = false) :
    inClass c = false :=
  Bool.eq_false_iff.mpr (List.any_eq_false.mp isOut c member)

theorem mem_of_isDieLetter (die : isDieLetter c = true) : c ∈ ['d', 'D'] := by
  simpa [isDieLetter] using die

theorem mem_of_isTimesLetter (times : isTimesLetter c = true) : c ∈ ['x', 'X'] := by
  simpa [isTimesLetter] using times

theorem mem_of_sign (signed : (c == '+' || c == '-') = true) : c ∈ ['+', '-'] := by
  simpa using signed

theorem mem_of_flag (extreme : (isLowestLetter c || isHighestLetter c) = true) :
    c ∈ ['l', 'L', 'h', 'H'] := by
  simpa [isLowestLetter, isHighestLetter, or_assoc] using extreme

theorem isDigit_eq_false_of_isDieLetter (die : isDieLetter c = true) : isDigit c = false :=
  eq_false_of_mem (mem_of_isDieLetter die) rfl

theorem isDigit_eq_false_of_isTimesLetter (times : isTimesLetter c = true) : isDigit c = false :=
  eq_false_of_mem (mem_of_isTimesLetter times) rfl

end Letters

/-! ## Runs at the start of a text -/

/-- A text of digits only; the empty text is one. -/
def AllDigits (text : List Char) : Prop :=
  ∀ c ∈ text, isDigit c = true

instance (text : List Char) : Decidable (AllDigits text) :=
  decidable_of_iff (text.all isDigit = true) List.all_eq_true

theorem AllDigits.not_mem {text : List Char} (digits : AllDigits text) {c : Char}
    (noDigit : isDigit c = false) : c ∉ text := by
  intro member
  exact ne_of_class (digits c member) noDigit rfl

/-- A run of a class is split off a text as a whole if nothing of the class follows it. -/
theorem takeWhile_dropWhile_append {inClass : Char → Bool} {front rest : List Char}
    (all : ∀ c ∈ front, inClass c = true) (stops : ∀ c ∈ rest.head?, inClass c = false) :
    (front ++ rest).takeWhile inClass = front ∧ (front ++ rest).dropWhile inClass = rest := by
  rw [List.takeWhile_append_of_pos all, List.dropWhile_append_of_pos all]
  cases rest with
  | nil => exact ⟨List.append_nil front, rfl⟩
  | cons head tail =>
    have isOut := stops head rfl
    simp [isOut]

/-- Texts that are equal are equal up to a character that neither has before. -/
theorem append_cons_inj {c : Char} {front back otherFront otherBack : List Char}
    (absent : c ∉ front) (otherAbsent : c ∉ otherFront)
    (same : front ++ c :: back = otherFront ++ c :: otherBack) :
    front = otherFront ∧ back = otherBack := by
  have split : ∀ {front back : List Char}, c ∉ front →
      (front ++ c :: back).takeWhile (· != c) = front ∧
        (front ++ c :: back).dropWhile (· != c) = c :: back := by
    intro front back absent
    apply takeWhile_dropWhile_append
    · intro other member
      exact bne_iff_ne.mpr fun same => absent (same ▸ member)
    · intro other head
      cases head
      exact bne_self_eq_false c
  have front_eq := (split absent).1.symm.trans ((congrArg _ same).trans (split otherAbsent).1)
  have back_eq := (split absent).2.symm.trans ((congrArg _ same).trans (split otherAbsent).2)
  exact ⟨front_eq, (List.cons.inj back_eq).2⟩

theorem spanDigits_append_of_allDigits {digits rest : List Char} (all : AllDigits digits)
    (stops : ∀ c ∈ rest.head?, isDigit c = false) :
    spanDigits (digits ++ rest) = (digits, rest) := by
  obtain ⟨taken, left⟩ := takeWhile_dropWhile_append all stops
  rw [spanDigits, taken, left]

theorem eq_append_of_spanDigits {text digits rest : List Char}
    (span : spanDigits text = (digits, rest)) : AllDigits digits ∧ text = digits ++ rest := by
  have whole := spanDigits_append text
  rw [span] at whole
  refine ⟨?_, whole.symm⟩
  rw [show digits = text.takeWhile isDigit from (congrArg Prod.fst span).symm]
  exact fun c member => List.mem_takeWhile_imp member

/-! ## Texts without blanks at their ends -/

/-- A text that has something in it and no blank at either end. -/
structure Solid (text : List Char) : Prop where
  nonempty : text ≠ []
  head : ∀ c ∈ text.head?, isBlank c = false
  last : ∀ c ∈ text.getLast?, isBlank c = false

theorem Solid.of_forall {text : List Char} (nonempty : text ≠ [])
    (noBlank : ∀ c ∈ text, isBlank c = false) : Solid text where
  nonempty := nonempty
  head := fun c head => noBlank c (List.mem_of_mem_head? head)
  last := fun c last => noBlank c (List.mem_of_mem_getLast? last)

theorem Solid.singleton {c : Char} (noBlank : isBlank c = false) : Solid [c] :=
  .of_forall (List.cons_ne_nil c []) fun other member => by
    rw [List.mem_singleton.mp member]
    exact noBlank

theorem AllDigits.solid {text : List Char} (digits : AllDigits text) (nonempty : text ≠ []) :
    Solid text :=
  .of_forall nonempty fun c member => isBlank_eq_false_of_isDigit (digits c member)

/-- Only the ends of a text matter. -/
theorem Solid.between {front back : List Char} (solidFront : Solid front) (middle : List Char)
    (solidBack : Solid back) : Solid (front ++ (middle ++ back)) where
  nonempty := by simp [solidFront.nonempty]
  head := by
    rw [List.head?_append_of_ne_nil _ solidFront.nonempty]
    exact solidFront.head
  last := by
    rw [← List.append_assoc, List.getLast?_append_of_ne_nil _ solidBack.nonempty]
    exact solidBack.last

theorem Solid.append {front back : List Char} (solidFront : Solid front) (solidBack : Solid back) :
    Solid (front ++ back) := by
  simpa using solidFront.between [] solidBack

theorem Solid.allBlank_eq_false {text : List Char} (solid : Solid text) (before after : List Char) :
    allBlank (before ++ (text ++ after)) = false := by
  obtain ⟨head, tail, rfl⟩ := List.exists_cons_of_ne_nil solid.nonempty
  have noBlank := solid.head head rfl
  simp [allBlank, noBlank]

/-- Blanks around a solid text are stripped, and nothing else is. -/
theorem strip_append {before text after : List Char} (blanksBefore : allBlank before = true)
    (solid : Solid text) (blanksAfter : allBlank after = true) :
    strip (before ++ (text ++ after)) = text := by
  have front : (before ++ (text ++ after)).dropWhile isBlank = text ++ after := by
    refine (takeWhile_dropWhile_append (List.all_eq_true.mp blanksBefore) ?_).2
    rw [List.head?_append_of_ne_nil _ solid.nonempty]
    exact solid.head
  have back : (after.reverse ++ text.reverse).dropWhile isBlank = text.reverse := by
    refine (takeWhile_dropWhile_append ?_ ?_).2
    · intro c member
      exact List.all_eq_true.mp blanksAfter c (List.mem_reverse.mp member)
    · rw [List.head?_reverse]
      exact solid.last
  rw [strip, trimBy, front, List.reverse_append, back, List.reverse_reverse]

end DiceTower.Text
