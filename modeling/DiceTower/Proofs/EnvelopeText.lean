import DiceTower.Envelope
import DiceTower.Proofs.Characters

/-!
# The texts of envelopes

An envelope around a body is recognised whatever the body is: with the count in front, all that
follows the opening parenthesis is the body, up to a closing parenthesis at the very end that the
body does not need (`Envelope.split_leading`); with the count behind, the body reaches up to the
last closing parenthesis (`Envelope.split_trailing`). A text that starts with neither is all body
(`Envelope.split_bare`).
-/

namespace DiceTower

open DiceTower.Text

/-- A text that opens as many parentheses as it closes. -/
def Balanced (text : List Char) : Prop :=
  text.count '(' = text.count ')'

instance (text : List Char) : Decidable (Balanced text) :=
  inferInstanceAs (Decidable (text.count '(' = text.count ')'))

theorem Balanced.append {front back : List Char} (balancedFront : Balanced front)
    (balancedBack : Balanced back) : Balanced (front ++ back) := by
  unfold Balanced at balancedFront balancedBack ⊢
  rw [List.count_append, List.count_append, balancedFront, balancedBack]

theorem Balanced.of_forall {text : List Char} (free : ∀ c ∈ text, c ≠ '(' ∧ c ≠ ')') :
    Balanced text := by
  have noOpening : '(' ∉ text := fun member => (free _ member).1 rfl
  have noClosing : ')' ∉ text := fun member => (free _ member).2 rfl
  unfold Balanced
  rw [List.count_eq_zero_of_not_mem noOpening, List.count_eq_zero_of_not_mem noClosing]

theorem Balanced.parenthesized {text : List Char} (balanced : Balanced text) :
    Balanced ('(' :: (text ++ [')'])) := by
  unfold Balanced at balanced ⊢
  simp [balanced]

namespace Envelope

/-- The parenthesis after a balanced body closes the envelope. -/
theorem unclosed_append {body : List Char} (balanced : Balanced body) :
    unclosed (body ++ [')']) = body := by
  unfold Balanced at balanced
  simp [unclosed, List.count_append, balanced]

theorem leading?_append {count : List Char} {letter : Char} (body : List Char)
    (digits : AllDigits count) (nonempty : count ≠ []) (times : isTimesLetter letter = true) :
    leading? (count ++ letter :: '(' :: body) = some ⟨unclosed body, count⟩ := by
  have span : spanDigits (count ++ letter :: '(' :: body) = (count, letter :: '(' :: body) := by
    apply spanDigits_append_of_allDigits digits
    intro c head
    cases head
    exact isDigit_eq_false_of_isTimesLetter times
  simp [leading?, span, nonempty, times]

/-- Only a text that starts with a digit has its count in front. -/
theorem leading?_opening (text : List Char) : leading? ('(' :: text) = none := by
  have span : spanDigits ('(' :: text) = ([], '(' :: text) := rfl
  rw [leading?, span]
  split
  · rename_i same
    rw [← (Prod.mk.inj same).1]
    rfl
  · rfl

theorem trailing?_append {count ending : List Char} {letter : Char} (body : List Char)
    (digits : AllDigits count) (nonempty : count ≠ []) (times : isTimesLetter letter = true)
    (newline : ending = [] ∨ ending = ['\n']) :
    trailing? ('(' :: (body ++ ')' :: letter :: (count ++ ending))) = some ⟨body, count⟩ := by
  have chomped : chomp (body ++ ')' :: letter :: (count ++ ending)) =
      body ++ ')' :: letter :: count := by
    rcases newline with rfl | rfl
    · rw [List.append_nil, chomp, if_neg]
      rw [show body ++ ')' :: letter :: count = (body ++ [')', letter]) ++ count by simp,
        List.getLast?_append_of_ne_nil _ nonempty]
      intro newline
      exact digits.not_mem rfl (List.mem_of_mem_getLast? (beq_iff_eq.mp newline))
    · rw [show body ++ ')' :: letter :: (count ++ ['\n']) =
        (body ++ ')' :: letter :: count) ++ ['\n'] by simp, chomp, List.getLast?_concat,
        if_pos (beq_self_eq_true _), List.dropLast_concat]
  have span : spanDigits (body ++ ')' :: letter :: count).reverse =
      (count.reverse, letter :: ')' :: body.reverse) := by
    have shape : (body ++ ')' :: letter :: count).reverse =
        count.reverse ++ letter :: ')' :: body.reverse := by
      simp
    rw [shape]
    apply spanDigits_append_of_allDigits
    · intro c member
      exact digits c (List.mem_reverse.mp member)
    · intro c head
      cases head
      exact isDigit_eq_false_of_isTimesLetter times
  rw [trailing?, chomped, span]
  simp [nonempty, times]

/-! ## Taking texts apart -/

theorem split_leading {count body : List Char} {letter : Char} (digits : AllDigits count)
    (nonempty : count ≠ []) (times : isTimesLetter letter = true) (balanced : Balanced body) :
    split (count ++ letter :: '(' :: (body ++ [')'])) = ⟨body, count⟩ := by
  rw [split, leading?_append _ digits nonempty times, unclosed_append balanced]
  rfl

theorem split_trailing {count : List Char} {letter : Char} (body : List Char)
    (digits : AllDigits count) (nonempty : count ≠ []) (times : isTimesLetter letter = true) :
    split ('(' :: (body ++ ')' :: letter :: count)) = ⟨body, count⟩ := by
  have found := trailing?_append body digits nonempty times (.inl rfl)
  rw [List.append_nil] at found
  rw [split, leading?_opening, found]
  rfl

/-- A text whose first character that is no digit belongs to no envelope is not in one. Behind a
digit only the times letter could, at the very start only the parenthesis. -/
theorem split_bare {digits rest : List Char} {head : Char} (all : AllDigits digits)
    (noDigit : isDigit head = false) (noTimes : digits = [] ∨ isTimesLetter head = false)
    (noOpening : head ≠ '(') :
    split (digits ++ head :: rest) = ⟨digits ++ head :: rest, []⟩ := by
  have span : spanDigits (digits ++ head :: rest) = (digits, head :: rest) := by
    apply spanDigits_append_of_allDigits all
    intro c same
    cases same
    exact noDigit
  have notLeading : leading? (digits ++ head :: rest) = none := by
    rw [leading?, span]
    split
    · rename_i same
      rcases noTimes with empty | noTimes
      · rw [← (Prod.mk.inj same).1, empty]
        rfl
      · rw [← (List.cons.inj (Prod.mk.inj same).2).1, noTimes, Bool.and_false]
        rfl
    · rfl
  have notTrailing : trailing? (digits ++ head :: rest) = none := by
    unfold trailing?
    split
    · rename_i same
      cases digits with
      | nil => exact absurd (List.cons.inj same).1 noOpening
      | cons digit others =>
        exact absurd (List.cons.inj same).1 (ne_of_class (all digit List.mem_cons_self) rfl)
    · rfl
  rw [split, notLeading, notTrailing]
  rfl

end Envelope

end DiceTower
