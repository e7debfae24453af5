import DiceTower.Proofs.FoundTokens
import DiceTower.Proofs.Grammar

/-!
# Keep clauses in envelopes

An envelope opens with the first parenthesis of its text. With the count in front, the parenthesis
at the very end closes it if more are closed than opened; with the count behind, the one before
the count does. Which parenthesis it was that the writer closed the envelope with is not asked, so
it may be the one of a keep clause (`Envelope.ClosedByClause`).

The main statement is `Envelope.keep_in_body_iff`: this is the only way a keep clause can be lost.
Every other clause lies in the body as a whole and is found there.
-/

namespace DiceTower

open DiceTower.Text

namespace Envelope

/-! ## The shapes of recognised texts -/

theorem leading?_eq_some_iff {text : List Char} {envelope : Envelope} :
    leading? text = some envelope ↔
      ∃ letter rest, AllDigits envelope.count ∧ envelope.count ≠ [] ∧
        isTimesLetter letter = true ∧ text = envelope.count ++ letter :: '(' :: rest ∧
        envelope.body = unclosed rest := by
  constructor
  · intro found
    unfold leading? at found
    split at found
    · rename_i count letter rest span
      obtain ⟨digits, rfl⟩ := eq_append_of_spanDigits span
      split at found
      · rename_i recognised
        simp only [Bool.and_eq_true, Bool.not_eq_true', List.isEmpty_eq_false_iff] at recognised
        cases found
        exact ⟨letter, rest, digits, recognised.1, recognised.2, rfl, rfl⟩
      · cases found
    · cases found
  · rintro ⟨letter, rest, digits, nonempty, times, rfl, body⟩
    rw [leading?_append rest digits nonempty times, ← body]

theorem exists_append_of_chomp (text : List Char) :
    ∃ ending, (ending = [] ∨ ending = ['\n']) ∧ text = chomp text ++ ending := by
  unfold chomp
  split
  · rename_i newline
    obtain ⟨front, rfl⟩ := List.getLast?_eq_some_iff.mp (beq_iff_eq.mp newline)
    exact ⟨['\n'], .inr rfl, by rw [List.dropLast_concat]⟩
  · exact ⟨[], .inl rfl, (List.append_nil text).symm⟩

/-- After the body come the parenthesis that closes the envelope and the count. -/
theorem trailing?_eq_some_iff {text : List Char} {envelope : Envelope} :
    trailing? text = some envelope ↔
      ∃ letter ending, AllDigits envelope.count ∧ envelope.count ≠ [] ∧
        isTimesLetter letter = true ∧ (ending = [] ∨ ending = ['\n']) ∧
        text = '(' :: (envelope.body ++ ')' :: letter :: (envelope.count ++ ending)) := by
  constructor
  · intro found
    unfold trailing? at found
    split at found
    · rename_i inner
      obtain ⟨ending, newline, whole⟩ := exists_append_of_chomp inner
      split at found
      · rename_i count letter body span
        obtain ⟨digits, reversed⟩ := eq_append_of_spanDigits span
        split at found
        · rename_i recognised
          simp only [Bool.and_eq_true, Bool.not_eq_true', List.isEmpty_eq_false_iff] at recognised
          cases found
          refine ⟨letter, ending, ?_, ?_, recognised.2, newline, ?_⟩
          · exact fun c member => digits c (List.mem_reverse.mp member)
          · exact List.reverse_ne_nil_iff.mpr recognised.1
          · have chomped : chomp inner = body.reverse ++ ')' :: letter :: count.reverse := by
              rw [← List.reverse_reverse (chomp inner), reversed]
              simp
            rw [whole, chomped]
            simp
        · cases found
      · cases found
    · cases found
  · rintro ⟨letter, ending, digits, nonempty, times, newline, rfl⟩
    exact trailing?_append envelope.body digits nonempty times newline

theorem split_eq_of_count_ne_nil {text : List Char} (recognised : (split text).count ≠ []) :
    leading? text = some (split text) ∨ trailing? text = some (split text) := by
  cases leading : leading? text with
  | some envelope => exact .inl (by rw [split, leading]; rfl)
  | none =>
    cases trailing : trailing? text with
    | some envelope => exact .inr (by rw [split, leading, trailing]; rfl)
    | none =>
      rw [split, leading, trailing] at recognised
      exact absurd rfl recognised

/-- A text has one first parenthesis. -/
theorem eq_of_first_opening {opening rest opening' rest' : List Char}
    (same : opening ++ '(' :: rest = opening' ++ '(' :: rest') (first : '(' ∉ opening)
    (first' : '(' ∉ opening') : opening = opening' ∧ rest = rest' := by
  rcases List.append_eq_append_iff.mp same with ⟨more, rfl, shape⟩ | ⟨more, rfl, shape⟩
  · cases more with
    | nil => exact ⟨(List.append_nil opening).symm, (List.cons.inj shape).2⟩
    | cons head more =>
      obtain ⟨rfl, -⟩ := List.cons.inj shape
      exact absurd (List.mem_append_right opening List.mem_cons_self) first'
  · cases more with
    | nil => exact ⟨List.append_nil opening', (List.cons.inj shape).2.symm⟩
    | cons head more =>
      obtain ⟨rfl, -⟩ := List.cons.inj shape
      exact absurd (List.mem_append_right opening' List.mem_cons_self) first

/-- The two shapes of a text with an envelope, by what stands before and after its first
parenthesis. -/
theorem shape_of_recognised {text opening inner : List Char} (recognised : (split text).count ≠ [])
    (shape : text = opening ++ '(' :: inner) (first : '(' ∉ opening) :
    opening ≠ [] ∧ (split text).body = unclosed inner ∨
      opening = [] ∧ ∃ tail, ')' ∉ tail ∧ inner = (split text).body ++ ')' :: tail := by
  rcases split_eq_of_count_ne_nil recognised with leading | trailing
  · obtain ⟨letter, rest, digits, -, times, whole, body⟩ := leading?_eq_some_iff.mp leading
    have noOpening : '(' ∉ (split text).count ++ [letter] := by
      rw [List.mem_append, List.mem_singleton]
      rintro (held | rfl)
      · exact digits.not_mem rfl held
      · cases times
    have same : (split text).count ++ [letter] ++ '(' :: rest = opening ++ '(' :: inner := by
      rw [← shape, List.append_assoc, List.singleton_append]
      exact whole.symm
    obtain ⟨rfl, rfl⟩ := eq_of_first_opening same noOpening first
    exact .inl ⟨by simp, body⟩
  · obtain ⟨letter, ending, digits, -, times, newline, whole⟩ :=
      trailing?_eq_some_iff.mp trailing
    have same : [] ++
        '(' :: ((split text).body ++ ')' :: letter :: ((split text).count ++ ending)) =
        opening ++ '(' :: inner := whole.symm.trans shape
    obtain ⟨rfl, rfl⟩ := eq_of_first_opening same List.not_mem_nil first
    refine .inr ⟨rfl, _, ?_, rfl⟩
    -- Nothing after the body closes a parenthesis but the one that closes the envelope.
    rw [List.mem_cons, List.mem_append]
    rintro (rfl | held | held)
    · cases times
    · exact digits.not_mem rfl held
    · rcases newline with rfl | rfl
      · cases held
      · cases List.mem_singleton.mp held

/-! ## Clauses in the body -/

/-- The parenthesis of a keep clause counts as the one that closes the envelope. The clause stands
between `front` and `back` in what follows the first parenthesis; in front of that is `opening`,
which is empty if the count comes behind. -/
def ClosedByClause (opening front back : List Char) : Prop :=
  match opening with
  | [] => ')' ∉ back
  | _ :: _ => back = [] ∧ front.count '(' < front.count ')'

section Clause

variable {kept clause : List Char} (spells : Token.Spells (.keep kept) clause)

include spells

theorem exists_concat : ∃ start, clause = start ++ [')'] := by
  cases spells
  exact ⟨'(' :: _ :: kept, rfl⟩

/-- A clause is cut off only at the very end, where its parenthesis is one too many. -/
theorem in_unclosed_iff (front back : List Char) :
    (∃ after, unclosed (front ++ (clause ++ back)) = front ++ (clause ++ after)) ↔
      ¬ (back = [] ∧ front.count '(' < front.count ')') := by
  have balanced : clause.count '(' = clause.count ')' := spells.balanced
  obtain ⟨start, ends⟩ := exists_concat spells
  by_cases last : back = []
  · subst last
    have closing : (front ++ (clause ++ [])).getLast? = some ')' := by
      rw [ends, List.append_nil, ← List.append_assoc, List.getLast?_concat]
    have counts : (front ++ (clause ++ [])).count '(' < (front ++ (clause ++ [])).count ')' ↔
        front.count '(' < front.count ')' := by
      simp only [List.count_append, List.count_nil]
      omega
    rw [unclosed, closing, beq_self_eq_true, Bool.true_and]
    by_cases more : front.count '(' < front.count ')'
    · rw [if_pos (decide_eq_true (counts.mpr more))]
      refine ⟨?_, fun kept => absurd ⟨rfl, more⟩ kept⟩
      rintro ⟨after, cut⟩
      have lengths := congrArg List.length cut
      simp only [List.length_dropLast, List.length_append, List.length_nil, ends,
        List.length_singleton] at lengths
      omega
    · rw [if_neg (by rw [decide_eq_true_eq, counts]; exact more)]
      exact ⟨fun _ taken => more taken.2, fun _ => ⟨[], rfl⟩⟩
  · refine ⟨fun _ taken => last taken.1, fun _ => ?_⟩
    unfold unclosed
    split
    · refine ⟨back.dropLast, ?_⟩
      rw [← List.append_assoc, List.dropLast_append_of_ne_nil last, List.append_assoc]
    · exact ⟨back, rfl⟩

/-- A clause before the parenthesis that closes the envelope ends before it, or with it. -/
theorem in_body_iff {body tail front back : List Char} (closing : ')' ∉ tail)
    (shape : body ++ ')' :: tail = front ++ (clause ++ back)) :
    (∃ after, body = front ++ (clause ++ after)) ↔ ')' ∈ back := by
  obtain ⟨start, ends⟩ := exists_concat spells
  constructor
  · rintro ⟨after, rfl⟩
    rw [List.append_assoc, List.append_assoc, List.append_cancel_left_eq,
      List.append_cancel_left_eq] at shape
    rw [← shape]
    exact List.mem_append_right after List.mem_cons_self
  · intro later
    rw [← List.append_assoc] at shape
    rcases List.append_eq_append_iff.mp shape with ⟨rest, whole, split⟩ | ⟨after, whole, -⟩
    · cases rest with
      | nil => exact ⟨[], by simpa using whole.symm⟩
      | cons head rest =>
        obtain ⟨rfl, rfl⟩ := List.cons.inj split
        exact absurd (List.mem_append_right rest later) closing
    · exact ⟨after, by rw [whole, List.append_assoc]⟩

end Clause

theorem body_prefix {text opening inner : List Char} (recognised : (split text).count ≠ [])
    (shape : text = opening ++ '(' :: inner) (first : '(' ∉ opening) :
    ∃ more, inner = (split text).body ++ more := by
  rcases shape_of_recognised recognised shape first with ⟨-, body⟩ | ⟨-, tail, -, rfl⟩
  · rw [body]
    unfold unclosed
    split
    · exact ⟨inner.drop (inner.length - 1), by rw [List.dropLast_eq_take, List.take_append_drop]⟩
    · exact ⟨[], (List.append_nil inner).symm⟩
  · exact ⟨')' :: tail, rfl⟩

/-- In a text with an envelope, a keep clause after the opening parenthesis lies in the body, and
is found there, just if its own parenthesis does not count as the one that closes the envelope. -/
theorem keep_in_body_iff {text opening front clause back kept : List Char}
    (recognised : (split text).count ≠ [])
    (shape : text = opening ++ '(' :: (front ++ (clause ++ back))) (first : '(' ∉ opening)
    (spells : Token.Spells (.keep kept) clause) :
    ((∃ after, (split text).body = front ++ (clause ++ after)) ↔
        ¬ ClosedByClause opening front back) ∧
      (⟨front.length, clause, .keep kept⟩ ∈ Lexeme.scan (split text).body ↔
        ¬ ClosedByClause opening front back) := by
  have inside : (∃ after, (split text).body = front ++ (clause ++ after)) ↔
      ¬ ClosedByClause opening front back := by
    rcases shape_of_recognised recognised shape first with ⟨before, body⟩ | ⟨rfl, tail, free, whole⟩
    · obtain ⟨head, rest, rfl⟩ := List.exists_cons_of_ne_nil before
      rw [body]
      exact in_unclosed_iff spells front back
    · exact (in_body_iff spells free whole.symm).trans not_not.symm
  refine ⟨inside, ?_⟩
  rw [← inside, Lexeme.keep_mem_scan_iff spells]
  constructor
  · rintro ⟨before, after, place, body⟩
    -- The body is the start of what follows the parenthesis, so the places in both are the same.
    obtain ⟨more, whole⟩ := body_prefix recognised shape first
    rw [body, List.append_assoc] at whole
    obtain ⟨rfl, -⟩ := List.append_inj whole place.symm
    exact ⟨after, body⟩
  · rintro ⟨after, body⟩
    exact ⟨front, after, rfl, body⟩

theorem spells_keepTwo : Token.Spells (.keep ['2']) "(k2)".toList :=
  .keep (show isKeepLetter 'k' = true from rfl) (by simp [AllDigits]; rfl) (by decide)

/-- A keep clause after the closing parenthesis, in front of a modifier. -/
theorem keep_in_body_iff_of_late_clause :
    (split "3x(4d6)-L(k2)+1".toList).count ≠ [] ∧
      ¬ ClosedByClause "3x".toList "4d6)-L".toList "+1".toList ∧
      ⟨6, "(k2)".toList, .keep ['2']⟩ ∈
        Lexeme.scan (split "3x(4d6)-L(k2)+1".toList).body := by
  have recognised : (split "3x(4d6)-L(k2)+1".toList).count ≠ [] := by decide
  have stays : ¬ ClosedByClause "3x".toList "4d6)-L".toList "+1".toList := fun taken =>
    absurd taken.1 (by decide)
  exact ⟨recognised, stays,
    (keep_in_body_iff recognised (by decide) (by decide) spells_keepTwo).2.mpr stays⟩

/-! ## Clauses that close an envelope

The text after an envelope belongs to its body, and the parenthesis of a keep clause there is the
last one of the text. It is taken for the envelope's, and the clause is lost.
-/

/-- A keep clause after the opening parenthesis that is not in the body. -/
theorem lost_keep_clause :
    ¬ ∀ text opening front clause back kept : List Char, (split text).count ≠ [] →
      text = opening ++ '(' :: (front ++ (clause ++ back)) → '(' ∉ opening →
      Token.Spells (.keep kept) clause →
      (∃ after, (split text).body = front ++ (clause ++ after)) ∧
        ⟨front.length, clause, .keep kept⟩ ∈ Lexeme.scan (split text).body := by
  intro kept
  obtain ⟨-, found⟩ := kept "2x(4d6)(k2)".toList "2x".toList "4d6)".toList "(k2)".toList [] ['2']
    (by decide) (by decide) (by decide) spells_keepTwo
  revert found
  decide

example : split "(4d6(k3)x2".toList = ⟨"4d6(k3".toList, ['2']⟩ := by decide

end Envelope

end DiceTower
