import DiceTower.Proofs.Grammar
import DiceTower.Proofs.TokenPlaces

/-!
# Blanks around a text

A text is its stripped form with blanks at both ends (`Text.exists_strip`), so more blanks there
change nothing (`Text.strip_blanks`). A solid text inside a longer one stays where it is, and only
what stands before and after it loses blanks (`Text.exists_strip_around`).

No token starts with a blank or ends with one, so stripping a body changes no token of it
(`Lexeme.map_token_scan_strip`).
-/

namespace DiceTower

open DiceTower.Text

namespace Text

/-! ## Stripped texts -/

variable {before text after : List Char}

theorem strip_of_allBlank (blank : allBlank text = true) : strip text = [] := by
  have none : text.dropWhile isBlank = [] := by
    rw [List.dropWhile_eq_nil_iff]
    exact List.all_eq_true.mp blank
  rw [strip, trimBy, none]
  rfl

theorem allBlank_append : allBlank (before ++ after) = (allBlank before && allBlank after) :=
  List.all_append

theorem allBlank_takeWhile (text : List Char) : allBlank (text.takeWhile isBlank) = true :=
  List.all_eq_true.mpr fun _ member => List.mem_takeWhile_imp member

/-- Some last characters of a text are blank, and what stands before them does not end with a
blank. -/
theorem exists_blanks_at_end (text : List Char) :
    ∃ blanks, allBlank blanks = true ∧
      text = (text.reverse.dropWhile isBlank).reverse ++ blanks := by
  refine ⟨(text.reverse.takeWhile isBlank).reverse, ?_, ?_⟩
  · rw [allBlank, List.all_reverse]
    exact allBlank_takeWhile _
  · rw [← List.reverse_append, List.takeWhile_append_dropWhile, List.reverse_reverse]

/-- A text is its stripped form with blanks at both ends. -/
theorem exists_strip (text : List Char) :
    ∃ before after, allBlank before = true ∧ allBlank after = true ∧
      text = before ++ (strip text ++ after) := by
  obtain ⟨after, blanks, rest⟩ := exists_blanks_at_end (text.dropWhile isBlank)
  refine ⟨text.takeWhile isBlank, after, allBlank_takeWhile text, blanks, ?_⟩
  rw [strip, trimBy, ← rest, List.takeWhile_append_dropWhile]

theorem strip_eq_nil_iff : strip text = [] ↔ allBlank text = true := by
  refine ⟨fun empty => ?_, strip_of_allBlank⟩
  obtain ⟨front, back, blanksFront, blanksBack, whole⟩ := exists_strip text
  rw [whole, empty, List.nil_append, allBlank_append, blanksFront, blanksBack]
  rfl

/-- What is left of a text that is stripped has no blank at its ends. -/
theorem solid_strip (some : strip text ≠ []) : Solid (strip text) := by
  refine ⟨some, fun c head => ?_, fun c last => ?_⟩
  · obtain ⟨after, -, rest⟩ := exists_blanks_at_end (text.dropWhile isBlank)
    have stops := List.head?_dropWhile_not isBlank text
    rw [show text.dropWhile isBlank = strip text ++ after from rest,
      List.head?_append_of_ne_nil _ some, Option.mem_def.mp head] at stops
    exact stops
  · rw [strip, trimBy, List.getLast?_reverse] at last
    have stops := List.head?_dropWhile_not isBlank (text.dropWhile isBlank).reverse
    rw [Option.mem_def.mp last] at stops
    exact stops

/-- A solid text does not end with blanks. -/
theorem Solid.eq_nil_of_append {more : List Char} (solid : Solid (text ++ more))
    (blanks : allBlank more = true) : more = [] := by
  by_contra some
  obtain ⟨last, ends⟩ := Option.isSome_iff_exists.mp (List.getLast?_isSome.mpr some)
  have noBlank := solid.last last (by rw [List.getLast?_append_of_ne_nil _ some]; exact ends)
  rw [List.all_eq_true.mp blanks last (List.mem_of_getLast? ends)] at noBlank
  cases noBlank

theorem Solid.strip_eq (solid : Solid text) : strip text = text := by
  have stripped : strip ([] ++ (text ++ [])) = text := strip_append rfl solid rfl
  rw [List.nil_append, List.append_nil] at stripped
  exact stripped

/-- Blanks around a text are stripped with those it has itself. -/
theorem strip_blanks (blanksBefore : allBlank before = true) (blanksAfter : allBlank after = true)
    (text : List Char) : strip (before ++ (text ++ after)) = strip text := by
  by_cases blank : allBlank text = true
  · rw [strip_of_allBlank blank]
    apply strip_of_allBlank
    rw [allBlank_append, allBlank_append, blanksBefore, blank, blanksAfter]
    rfl
  · obtain ⟨front, back, blanksFront, blanksBack, whole⟩ := exists_strip text
    have shape : before ++ (text ++ after) =
        (before ++ front) ++ (strip text ++ (back ++ after)) := by
      conv_lhs => rw [whole]
      simp only [List.append_assoc]
    rw [shape]
    refine strip_append ?_ (solid_strip (strip_eq_nil_iff.not.mpr blank)) ?_
    · rw [allBlank_append, blanksBefore, blanksFront]
      rfl
    · rw [allBlank_append, blanksBack, blanksAfter]
      rfl

/-- Around a solid text only blanks at the very ends are stripped. -/
theorem exists_strip_around (solid : Solid text) (before after : List Char) :
    ∃ outer front back outer', allBlank outer = true ∧ allBlank outer' = true ∧
      before = outer ++ front ∧ after = back ++ outer' ∧
      strip (before ++ (text ++ after)) = front ++ (text ++ back) := by
  -- What is not blank before the text starts what is left; without any the text itself does.
  have around : ∀ {front back : List Char}, (∀ c ∈ back.head?, isBlank c = false) →
      (front ++ back).dropWhile isBlank = front.dropWhile isBlank ++ back := by
    intro front back stops
    rw [List.dropWhile_append]
    split
    · rename_i empty
      rw [List.isEmpty_iff.mp empty, List.nil_append]
      exact (takeWhile_dropWhile_append (List.forall_mem_nil _) stops).2
    · rfl
  obtain ⟨outer', blanks, rest⟩ := exists_blanks_at_end after
  refine ⟨before.takeWhile isBlank, before.dropWhile isBlank,
    (after.reverse.dropWhile isBlank).reverse, outer', allBlank_takeWhile before, blanks,
    List.takeWhile_append_dropWhile.symm, rest, ?_⟩
  have front : (before ++ (text ++ after)).dropWhile isBlank =
      before.dropWhile isBlank ++ (text ++ after) := by
    apply around
    rw [List.head?_append_of_ne_nil _ solid.nonempty]
    exact solid.head
  have back : (after.reverse ++ (text.reverse ++ (before.dropWhile isBlank).reverse)).dropWhile
      isBlank = after.reverse.dropWhile isBlank ++
        (text.reverse ++ (before.dropWhile isBlank).reverse) := by
    apply around
    rw [List.head?_append_of_ne_nil _ (List.reverse_ne_nil_iff.mpr solid.nonempty),
      List.head?_reverse]
    exact solid.last
  rw [strip, trimBy, front, List.reverse_append, List.reverse_append, List.append_assoc, back]
  simp only [List.reverse_append, List.reverse_reverse, List.append_assoc]

end Text

namespace Token

/-! ## The first token of a text -/

variable {token : Token} {text after : List Char}

/-- A token is found if it is written there and what follows leaves its last number alone. -/
theorem first?_eq_some_iff :
    first? text = some token ↔
      ∃ spelled after, text = spelled ++ after ∧ token.Spells spelled ∧ token.LeftBy after := by
  constructor
  · intro found
    obtain ⟨spelled, after, spells, rfl⟩ := starts_of_first? found
    exact ⟨spelled, after, rfl, spells, leftBy_of_first? spells found⟩
  · rintro ⟨spelled, after, rfl, spells, left⟩
    cases spells with
    | @dice times faces letter timesDigits die facesDigits =>
      have run : (faces ++ after).takeWhile isDigit = faces :=
        (takeWhile_dropWhile_append facesDigits left).1
      rw [List.append_assoc, List.cons_append, first?_die timesDigits die, spanDigits, run]
    | keep isKeep digits nonempty => exact first?_keep (.keep isKeep digits nonempty) after
    | select extreme => exact first?_select extreme after
    | multiplier times digits nonempty =>
      exact first?_append (.multiplier times digits nonempty) left
    | modifier signed blanks digits nonempty =>
      exact first?_append (.modifier signed blanks digits nonempty) left

/-- No token starts with a character that calls for none and is no digit. -/
theorem first?_cons_eq_none {head : Char} (noDigit : isDigit head = false)
    (noCaller : head ∉ Lexeme.callers) (rest : List Char) : first? (head :: rest) = none := by
  simp only [Lexeme.callers, List.mem_cons, List.not_mem_nil, or_false, not_or] at noCaller
  obtain ⟨smallD, bigD, opening, smallX, bigX, plus, minus⟩ := noCaller
  rw [first?, dice?_cons_eq_none _ noDigit (by simp [isDieLetter, smallD, bigD]),
    keep?_cons_eq_none _ opening, select?_cons_eq_none _ (.inl minus),
    multiplier?_cons_eq_none _ (by simp [isTimesLetter, smallX, bigX])]
  simp [modifier?, plus, minus]

theorem first?_blank {head : Char} (blank : isBlank head = true) (rest : List Char) :
    first? (head :: rest) = none :=
  first?_cons_eq_none (isDigit_eq_false_of_isBlank blank) (Lexeme.not_mem_callers blank rfl) rest

/-- Blanks at the end of a text are nothing that a number could run on into. -/
theorem leftBy_append_blanks_iff (blanks : allBlank after = true) :
    token.LeftBy (text ++ after) ↔ token.LeftBy text := by
  have ends : ∀ {ok : Char → Prop}, (∀ c, isBlank c = true → ok c) →
      ((∀ c ∈ (text ++ after).head?, ok c) ↔ ∀ c ∈ text.head?, ok c) := by
    intro ok blankOk
    cases text with
    | cons head rest => exact Iff.rfl
    | nil =>
      refine ⟨fun _ c head => (by cases head), fun _ c head => blankOk c ?_⟩
      exact List.all_eq_true.mp blanks c (List.mem_of_mem_head? head)
  have noDigit : ∀ c, isBlank c = true → isDigit c = false :=
    fun _ blank => isDigit_eq_false_of_isBlank blank
  have breaks : ∀ c, isBlank c = true → isDigit c = false ∧ isDieLetter c = false := by
    refine fun c blank => ⟨noDigit c blank, ?_⟩
    rw [Bool.eq_false_iff]
    intro die
    have noBlank : isBlank c = false := eq_false_of_mem (mem_of_isDieLetter die) rfl
    rw [noBlank] at blank
    cases blank
  cases token with
  | dice times faces => exact ends noDigit
  | keep kept => exact Iff.rfl
  | select flag => exact Iff.rfl
  | multiplier factor => exact ends breaks
  | modifier sign gap amount => exact ends breaks

/-- No token ends with a blank, so blanks at the end of a text belong to none. -/
theorem first?_append_blanks (blanks : allBlank after = true) :
    first? (text ++ after) = first? text := by
  ext token
  rw [first?_eq_some_iff, first?_eq_some_iff]
  constructor
  · rintro ⟨spelled, rest, same, spells, left⟩
    rcases List.append_eq_append_iff.mp same with ⟨more, rfl, shape⟩ | ⟨more, rfl, rfl⟩
    · rw [shape, allBlank_append, Bool.and_eq_true] at blanks
      obtain rfl := spells.solid.eq_nil_of_append blanks.1
      rw [List.append_nil] at spells
      have noMore : token.LeftBy ([] ++ rest) ↔ token.LeftBy [] := leftBy_append_blanks_iff blanks.2
      exact ⟨text, [], (List.append_nil text).symm, spells, noMore.mp left⟩
    · exact ⟨spelled, more, rfl, spells, (leftBy_append_blanks_iff blanks).mp left⟩
  · rintro ⟨spelled, rest, rfl, spells, left⟩
    exact ⟨spelled, rest ++ after, List.append_assoc _ _ _, spells,
      (leftBy_append_blanks_iff blanks).mpr left⟩

end Token

namespace Lexeme

/-! ## Tokens of a body -/

variable {before after : List Char}

/-- The tokens from some place on do not depend on the number of the place. -/
theorem map_token_scanFrom_eq (inside position other : Nat) (text : List Char) :
    (scanFrom inside position text).map token = (scanFrom inside other text).map token := by
  induction text generalizing inside position other with
  | nil => rw [scanFrom_nil, scanFrom_nil]
  | cons head rest hypothesis =>
    cases inside with
    | succ inside => exact hypothesis inside (position + 1) (other + 1)
    | zero =>
      rw [scanFrom, scanFrom]
      split
      · rw [List.map_cons, List.map_cons, hypothesis _ (position + 1) (other + 1)]
      · exact hypothesis 0 (position + 1) (other + 1)

theorem map_token_scanFrom_append_blanks (blanks : allBlank after = true)
    (inside position : Nat) (text : List Char) :
    (scanFrom inside position (text ++ after)).map token =
      (scanFrom inside position text).map token := by
  induction text generalizing inside position with
  | nil =>
    rw [List.nil_append, scanFrom_nil]
    induction after generalizing inside position with
    | nil => rw [scanFrom_nil]
    | cons blank others hypothesis =>
      obtain ⟨isBlank, others⟩ := List.forall_mem_cons.mp (List.all_eq_true.mp blanks)
      cases inside with
      | succ inside => exact hypothesis (List.all_eq_true.mpr others) inside (position + 1)
      | zero =>
        rw [scanFrom, Token.first?_blank isBlank]
        exact hypothesis (List.all_eq_true.mpr others) 0 (position + 1)
  | cons head rest hypothesis =>
    cases inside with
    | succ inside => exact hypothesis inside (position + 1)
    | zero =>
      have first : Token.first? (head :: rest ++ after) = Token.first? (head :: rest) :=
        Token.first?_append_blanks blanks
      rw [List.cons_append] at first ⊢
      rw [scanFrom, scanFrom, first]
      split
      · rw [List.map_cons, List.map_cons, hypothesis]
      · exact hypothesis 0 (position + 1)

theorem scanFrom_blanks_append (blanks : allBlank before = true) (position : Nat)
    (text : List Char) :
    scanFrom 0 position (before ++ text) = scanFrom 0 (position + before.length) text := by
  induction before generalizing position with
  | nil => rfl
  | cons blank others hypothesis =>
    obtain ⟨isBlank, rest⟩ := List.forall_mem_cons.mp (List.all_eq_true.mp blanks)
    rw [List.cons_append, scanFrom, Token.first?_blank isBlank]
    dsimp only
    rw [hypothesis (List.all_eq_true.mpr rest), List.length_cons]
    congr 1
    omega

/-- Blanks around a body change no token of it. -/
theorem map_token_scan_blanks (blanksBefore : allBlank before = true)
    (blanksAfter : allBlank after = true) (text : List Char) :
    (scan (before ++ (text ++ after))).map token = (scan text).map token := by
  rw [scan, scanFrom_blanks_append blanksBefore, map_token_scanFrom_append_blanks blanksAfter]
  exact map_token_scanFrom_eq 0 _ 0 text

theorem map_token_scan_strip (body : List Char) :
    (scan (strip body)).map token = (scan body).map token := by
  obtain ⟨before, after, blanksBefore, blanksAfter, whole⟩ := exists_strip body
  conv_rhs => rw [whole]
  exact (map_token_scan_blanks blanksBefore blanksAfter (strip body)).symm

end Lexeme

end DiceTower
